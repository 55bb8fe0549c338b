import TaskGraph.Host.Board

/-!
# Waiting for signals

Any number of waits share one board with those who deliver to it, and each of them acts in steps that
the others may come between. A delivery first puts its payload on the board and then announces it;
an announcement wakes every wait that is enlisted by then. A wait enlists, looks at the board, and
either takes a payload and returns with it or parks until it is woken, and then begins anew; while it
is parked it may be cancelled, and it may be dropped wherever it is.

`Waiting.Step` says what the steps are, and `Waiting.Reaches` what any order of them comes to.
However they are interleaved, no payload is lost, doubled or overtaken by a later one, a wait that
ends without a payload has taken none, and when every announcement has been made, a wait that has
not been woken is parked in front of an empty queue (`Waiting.signals_kept`).
-/

set_option autoImplicit false

namespace TaskGraph

namespace Waiting

/-! ## Waits -/

/-- Where a wait is. -/
inductive Stage where
  /-- Before it enlists, at its beginning or after it was woken. -/
  | starting
  /-- Enlisted, and about to look at the board. -/
  | looking (woken : Bool)
  /-- Enlisted, with nothing found on the board. -/
  | parked (woken : Bool)
  | returned (payload : Json)
  | cancelled
  | dropped
  deriving Repr, DecidableEq

/-- Whether a wait has not ended. -/
def Stage.live : Stage → Bool
  | starting | looking _ | parked _ => true
  | returned _ | cancelled | dropped => false

/-- The payload that a wait has returned with. -/
def Stage.payload? : Stage → Option Json
  | returned p => some p
  | _ => none

/-- An announcement wakes the waits that are enlisted. -/
def Stage.wake : Stage → Stage
  | looking _ => looking true
  | parked _ => parked true
  | s => s

/-- A wait for the signal of a name, until a scope is cancelled. -/
structure Waiter where
  name : String
  scope : Nat
  stage : Stage
  deriving Repr, DecidableEq

/-- Wakes a wait. -/
def Waiter.wake (w : Waiter) : Waiter := { w with stage := w.stage.wake }

/-! ## Steps -/

/-- A board and those around it. -/
structure State where
  board : Board
  /-- The number of changes of the board that are still to be announced. -/
  unannounced : Nat
  /-- The cancelled scopes. -/
  cancelled : List Nat
  waiters : List Waiter
  deriving Repr, DecidableEq

namespace State

/-- An empty board and no waits. -/
def start : State := ⟨.empty, 0, [], []⟩

/-- Moves a wait on. -/
def move (st : State) (i : Nat) (w : Waiter) (stage : Stage) : State :=
  { st with waiters := st.waiters.set i { w with stage } }

end State

/-- What happens to payloads. -/
inductive Event where
  | delivered (name : String) (payload : Json)
  | taken (waiter : Nat) (name : String) (payload : Json)
  deriving Repr, DecidableEq

/-- What one of those around a board may do next, and what happens to payloads by it. -/
inductive Step : State → List Event → State → Prop where
  | deliver {st : State} (name : String) (payload : Json) :
      Step st [.delivered name payload]
        { st with board := st.board.deliver name payload, unannounced := st.unannounced + 1 }
  /-- The response to a query is announced as well. -/
  | respond {st : State} (id : String) (response : Json) :
      Step st []
        { st with board := st.board.respond id response, unannounced := st.unannounced + 1 }
  | announce {st : State} {n : Nat} (unannounced : st.unannounced = n + 1) :
      Step st [] { st with unannounced := n, waiters := st.waiters.map Waiter.wake }
  | cancel {st : State} (scope : Nat) : Step st [] { st with cancelled := scope :: st.cancelled }
  | arrive {st : State} (name : String) (scope : Nat) :
      Step st [] { st with waiters := st.waiters ++ [⟨name, scope, .starting⟩] }
  | enlist {st : State} {i : Nat} {w : Waiter} (found : st.waiters[i]? = some w)
      (stage : w.stage = .starting) : Step st [] (st.move i w (.looking false))
  | take {st : State} {i : Nat} {w : Waiter} {woken : Bool} {payload : Json} {board : Board}
      (found : st.waiters[i]? = some w) (stage : w.stage = .looking woken)
      (taken : st.board.take? w.name = some (payload, board)) :
      Step st [.taken i w.name payload] { st.move i w (.returned payload) with board := board }
  | park {st : State} {i : Nat} {w : Waiter} {woken : Bool} (found : st.waiters[i]? = some w)
      (stage : w.stage = .looking woken) (empty : st.board.take? w.name = none) :
      Step st [] (st.move i w (.parked woken))
  | resume {st : State} {i : Nat} {w : Waiter} (found : st.waiters[i]? = some w)
      (stage : w.stage = .parked true) : Step st [] (st.move i w .starting)
  | cease {st : State} {i : Nat} {w : Waiter} {woken : Bool} (found : st.waiters[i]? = some w)
      (stage : w.stage = .parked woken) (cancelled : w.scope ∈ st.cancelled) :
      Step st [] (st.move i w .cancelled)
  | drop {st : State} {i : Nat} {w : Waiter} (found : st.waiters[i]? = some w)
      (live : w.stage.live = true) : Step st [] (st.move i w .dropped)

/-- What happens to payloads, in order, until a state is reached from an empty board. -/
inductive Reaches : List Event → State → Prop where
  | start : Reaches [] .start
  | step {es es' : List Event} {st st' : State} (reaches : Reaches es st) (step : Step st es' st') :
      Reaches (es ++ es') st'

/-! ## Histories of payloads -/

/-- The payloads of a name that were delivered, in order. -/
def deliveredOf (name : String) (es : List Event) : List Json :=
  es.filterMap fun
    | .delivered n p => if n = name then some p else none
    | .taken .. => none

/-- The payloads of a name that were taken, in order. -/
def takenOf (name : String) (es : List Event) : List Json :=
  es.filterMap fun
    | .taken _ n p => if n = name then some p else none
    | .delivered .. => none

/-- What a wait has taken, in order. -/
def takenBy (i : Nat) (es : List Event) : List (String × Json) :=
  es.filterMap fun
    | .taken j n p => if j = i then some (n, p) else none
    | .delivered .. => none

/-- What a wait has to show for itself: the payload it returned with, under its name. -/
def Waiter.receipt? (w : Waiter) : Option (String × Json) := w.stage.payload?.map fun p => (w.name, p)

theorem deliveredOf_append (name : String) (es es' : List Event) :
    deliveredOf name (es ++ es') = deliveredOf name es ++ deliveredOf name es' :=
  List.filterMap_append ..

theorem takenOf_append (name : String) (es es' : List Event) :
    takenOf name (es ++ es') = takenOf name es ++ takenOf name es' :=
  List.filterMap_append ..

theorem takenBy_append (i : Nat) (es es' : List Event) :
    takenBy i (es ++ es') = takenBy i es ++ takenBy i es' :=
  List.filterMap_append ..

/-! ## One step -/

theorem Stage.payload?_of_live {s : Stage} (h : s.live = true) : s.payload? = none := by
  cases s with
  | starting | looking | parked => rfl
  | returned | cancelled | dropped => cases h

/-- To be woken is not to return. -/
theorem Waiter.receipt?_wake (w : Waiter) : w.wake.receipt? = w.receipt? := by
  unfold receipt? wake
  cases w.stage <;> rfl

/-- What a wait has to show after one of the waits was moved on. -/
theorem receipt_move {st : State} {i : Nat} {w : Waiter} (found : st.waiters[i]? = some w)
    (stage : Stage) (j : Nat) :
    (st.move i w stage).waiters[j]?.bind Waiter.receipt? =
      if i = j then stage.payload?.map fun p => (w.name, p)
      else st.waiters[j]?.bind Waiter.receipt? := by
  obtain ⟨hi, -⟩ := List.getElem?_eq_some_iff.1 found
  unfold State.move
  rw [List.getElem?_set, if_pos hi]
  split <;> rfl

/-- A wait that has not ended shows nothing, and neither does it where it has not returned. -/
theorem receipt_move_of_live {st : State} {i : Nat} {w : Waiter}
    (found : st.waiters[i]? = some w) (live : w.stage.live = true) {stage : Stage}
    (hstage : stage.payload? = none) (j : Nat) :
    (st.move i w stage).waiters[j]?.bind Waiter.receipt? =
      st.waiters[j]?.bind Waiter.receipt? := by
  rw [receipt_move found]
  split
  · next hij =>
    subst hij
    rw [found, hstage]
    simp [Waiter.receipt?, Stage.payload?_of_live live]
  · rfl

/-- What a wait has to show grows by what it takes. -/
theorem Step.receipt {st st' : State} {es : List Event} (h : Step st es st') (i : Nat) :
    (st.waiters[i]?.bind Waiter.receipt?).toList ++ takenBy i es =
      (st'.waiters[i]?.bind Waiter.receipt?).toList := by
  cases h with
  | deliver | respond | cancel => exact List.append_nil _
  | announce =>
    rw [List.getElem?_map, takenBy, List.filterMap_nil, List.append_nil]
    cases st.waiters[i]? with
    | none => rfl
    | some w => exact congrArg Option.toList w.receipt?_wake.symm
  | arrive name scope =>
    rw [takenBy, List.filterMap_nil, List.append_nil, List.getElem?_append]
    split
    · rfl
    · next hi =>
      rw [List.getElem?_eq_none (by omega)]
      cases hw : [(⟨name, scope, .starting⟩ : Waiter)][i - st.waiters.length]? with
      | none => rfl
      | some w =>
        obtain rfl := List.mem_singleton.1 (List.mem_of_getElem? hw)
        rfl
  | @take j w woken payload board found stage taken =>
    have hmove := receipt_move found (.returned payload) i
    show _ = ((st.move j w (.returned payload)).waiters[i]?.bind Waiter.receipt?).toList
    rw [hmove]
    -- only the wait that takes the payload has it to show
    split
    · next hij =>
      subst hij
      rw [found]
      simp [takenBy, Waiter.receipt?, stage, Stage.payload?]
    · next hij => simp [takenBy, hij]
  | enlist found stage | park found stage | resume found stage | cease found stage =>
    rw [receipt_move_of_live found (by rw [stage]; rfl) rfl]
    exact List.append_nil _
  | drop found live =>
    rw [receipt_move_of_live found live rfl]
    exact List.append_nil _

/-- What is taken of a name and what is left of it is what was there and what is delivered. -/
theorem Step.queue {st st' : State} {es : List Event} (h : Step st es st') (name : String) :
    takenOf name es ++ st'.board.queue name = st.board.queue name ++ deliveredOf name es := by
  cases h with
  | deliver n payload =>
    show (st.board.deliver n payload).queue name = _
    rw [Board.queue_deliver]
    by_cases hn : name = n
    · subst hn
      simp [deliveredOf]
    · simp [deliveredOf, hn, Ne.symm hn]
  | @take j w woken payload board found stage taken =>
    show takenOf name _ ++ board.queue name = _
    rw [Board.queue_of_take? taken name]
    by_cases hn : name = w.name
    · subst hn
      simp [takenOf, deliveredOf]
    · simp [takenOf, deliveredOf, hn, Ne.symm hn]
  | _ => exact (List.append_nil _).symm

/-- Whether a wait that has not been woken is parked in front of an empty queue, unless something is
still to be announced. -/
def State.Alert (st : State) : Prop :=
  ∀ w ∈ st.waiters, w.stage = .parked false → st.unannounced = 0 → st.board.queue w.name = []

theorem State.Alert.move {st : State} (h : st.Alert) (i : Nat) (w : Waiter) {stage : Stage}
    (hstage : stage = .parked false → st.board.queue w.name = []) : (st.move i w stage).Alert := by
  intro v hv hparked hannounced
  rcases List.mem_or_eq_of_mem_set hv with hold | rfl
  · exact h v hold hparked hannounced
  · exact hstage hparked

/-- No step lets a wait park, or stay parked, beside a payload that it will not be woken for. -/
theorem Step.alert {st st' : State} {es : List Event} (h : Step st es st') (halert : st.Alert) :
    st'.Alert := by
  cases h with
  -- what changes the board is still to be announced
  | deliver | respond => exact fun _ _ _ hannounced => absurd hannounced (Nat.succ_ne_zero _)
  | announce =>
    intro v hv hparked _
    obtain ⟨w, -, rfl⟩ := List.mem_map.1 hv
    -- whoever is parked has been woken now
    revert hparked
    unfold Waiter.wake Stage.wake
    cases w.stage <;> simp
  | cancel => exact halert
  | arrive name scope =>
    intro v hv hparked hannounced
    rcases List.mem_append.1 hv with hold | hnew
    · exact halert v hold hparked hannounced
    · rw [List.mem_singleton.1 hnew] at hparked
      cases hparked
  | @take j w woken payload board found stage taken =>
    intro v hv hparked hannounced
    -- queues only get shorter
    have hmoved : (st.move j w (.returned payload)).Alert := halert.move j w nofun
    have hqueue := hmoved v hv hparked hannounced
    have htaken := Board.queue_of_take? taken v.name
    rw [show (st.move j w (.returned payload)).board = st.board from rfl, htaken] at hqueue
    show board.queue v.name = []
    split at hqueue
    · cases hqueue
    · exact hqueue
  | park found stage empty =>
    exact halert.move _ _ fun _ => Board.take?_eq_none.1 empty
  | enlist | resume | cease | drop => exact halert.move _ _ nofun

/-! ## Any order of steps -/

/-- Signals are neither lost nor doubled nor reordered, whatever the order of deliveries, waits,
wake-ups, cancellations and drops. Of each name, what waits have taken, in the order in which they
took it, and what is left on the board after it, are what was delivered. A wait has taken the payload
that it has returned with; one that was cancelled or dropped, or has not ended, has taken nothing.
And once everything is announced, a wait that is parked and has not been woken has nothing to wait
for on the board. -/
theorem signals_kept {es : List Event} {st : State} (h : Reaches es st) :
    (∀ name, takenOf name es ++ st.board.queue name = deliveredOf name es) ∧
      (∀ i, takenBy i es = (st.waiters[i]?.bind Waiter.receipt?).toList) ∧
      st.Alert := by
  induction h with
  | start => exact ⟨fun _ => rfl, fun _ => rfl, fun _ hw => (List.not_mem_nil hw).elim⟩
  | step reaches step ih =>
    obtain ⟨hqueue, hreceipt, halert⟩ := ih
    refine ⟨fun name => ?_, fun i => ?_, step.alert halert⟩
    · rw [takenOf_append, deliveredOf_append, ← hqueue, List.append_assoc, List.append_assoc,
        step.queue]
    · rw [takenBy_append, hreceipt, step.receipt]

/-- Two payloads of a name are delivered to a wait that is parked, and it takes the first one. -/
def wokenEvents : List Event :=
  [.delivered "go" (.bool true), .delivered "go" (.bool false), .taken 0 "go" (.bool true)]

/-- What is left of it, after a wait for another name has been cancelled. -/
def wokenState : State where
  board := ⟨[("go", [.bool false])], []⟩
  unannounced := 0
  cancelled := [7]
  waiters := [⟨"go", 0, .returned (.bool true)⟩, ⟨"stop", 7, .cancelled⟩]

/-- A wait that was parked before two deliveries leaves the second payload behind. -/
theorem signals_kept_of_woken :
    Reaches wokenEvents wokenState ∧
      takenOf "go" wokenEvents ++ wokenState.board.queue "go" = [.bool true, .bool false] ∧
      takenBy 0 wokenEvents = [("go", .bool true)] ∧ takenBy 1 wokenEvents = [] ∧
      wokenState.Alert := by
  have hparked := Reaches.start
    |>.step (.arrive "go" 0)
    |>.step (.enlist (i := 0) rfl rfl)
    |>.step (.park (i := 0) rfl rfl rfl)
  have hwoken := hparked
    |>.step (.deliver "go" (.bool true))
    |>.step (.deliver "go" (.bool false))
    |>.step (.announce rfl)
    |>.step (.announce rfl)
  have htaken := hwoken
    |>.step (.resume (i := 0) rfl rfl)
    |>.step (.enlist (i := 0) rfl rfl)
    |>.step (.take (i := 0) rfl rfl rfl)
  have hceased := htaken
    |>.step (.arrive "stop" 7)
    |>.step (.enlist (i := 1) rfl rfl)
    |>.step (.park (i := 1) rfl rfl rfl)
    |>.step (.cancel 7)
    |>.step (.cease (i := 1) rfl rfl (by decide))
  have hreaches : Reaches wokenEvents wokenState := hceased
  obtain ⟨hqueue, hreceipt, halert⟩ := signals_kept hreaches
  exact ⟨hreaches, hqueue "go", hreceipt 0, hreceipt 1, halert⟩

end Waiting

end TaskGraph
