import TaskGraph.Host.Timeline
import TaskGraph.Proofs.Signals.Waiting

/-!
# A wait on a timeline

Nothing else runs before the observer of a timeline waits, and while it waits, the clock brings one
delivery after the other. So a wait on a timeline goes through the steps of a wait and of those who
deliver, in one of their orders (`Timeline.wait_steps`). It takes the payload that it is answered with,
and what was on the board and still to come is otherwise left there (`Timeline.wait_keeps`).
-/

set_option autoImplicit false

namespace TaskGraph

namespace Waiting

/-! ## Steps -/

/-- What steps come to, one after the other, and what happens to payloads by them. -/
inductive Steps (st : State) : List Event → State → Prop where
  | refl : Steps st [] st
  | step {es es' : List Event} {st' st'' : State} (steps : Steps st es st')
      (step : Step st' es' st'') : Steps st (es ++ es') st''

variable {st st' st'' : State} {es es' : List Event}

theorem Step.steps (h : Step st es st') : Steps st es st' := Steps.refl.step h

theorem Steps.trans (h : Steps st es st') (h' : Steps st' es' st'') : Steps st (es ++ es') st'' := by
  induction h' with
  | refl =>
    rw [List.append_nil]
    exact h
  | step _ step ih =>
    rw [← List.append_assoc]
    exact ih.step step

/-- What is taken of a name and what is left of it is what was there and what is delivered. -/
theorem Steps.queue (h : Steps st es st') (name : String) :
    takenOf name es ++ st'.board.queue name = st.board.queue name ++ deliveredOf name es := by
  induction h with
  | refl => exact (List.append_nil _).symm
  | step _ step ih =>
    rw [takenOf_append, deliveredOf_append, List.append_assoc, step.queue, ← List.append_assoc, ih,
      List.append_assoc]

/-- No steps let a wait park, or stay parked, beside a payload that it will not be woken for. -/
theorem Steps.alert (h : Steps st es st') (halert : st.Alert) : st'.Alert := by
  induction h with
  | refl => exact halert
  | step _ step ih => exact step.alert ih

/-! ## A wait among others -/

/-- A board on which everything is announced, with a wait between others. -/
def among (b : Board) (cancelled : List Nat) (before : List Waiter) (w : Waiter)
    (after : List Waiter) : State :=
  ⟨b, 0, cancelled, before ++ w :: after⟩

theorem found_among (b : Board) (cancelled : List Nat) (before : List Waiter) (w : Waiter)
    (after : List Waiter) : (among b cancelled before w after).waiters[before.length]? = some w := by
  simp [among]

variable {b b' : Board} {cancelled : List Nat} {name : String} {scope : Nat}
  {before after : List Waiter} {w : Waiter}

theorem move_among (stage : Stage) :
    (among b cancelled before w after).move before.length w stage =
      among b cancelled before { w with stage } after := by
  simp [State.move, among]

/-- A delivery is announced at once. -/
theorem steps_deliver (ws : List Waiter) (other : String) (payload : Json) :
    Steps ⟨b, 0, cancelled, ws⟩ [.delivered other payload]
      ⟨b.deliver other payload, 0, cancelled, ws.map Waiter.wake⟩ :=
  Steps.refl |>.step (.deliver other payload) |>.step (.announce rfl)

/-- A wait enlists. -/
theorem steps_enlist : Steps (among b cancelled before ⟨name, scope, .starting⟩ after) []
    (among b cancelled before ⟨name, scope, .looking false⟩ after) := by
  have h := (Step.enlist (found_among b cancelled before ⟨name, scope, .starting⟩ after) rfl).steps
  rwa [move_among] at h

/-- A wait looks at the board and returns with what is there. -/
theorem steps_take {payload : Json} (taken : b.take? name = some (payload, b')) :
    Steps (among b cancelled before ⟨name, scope, .starting⟩ after)
      [.taken before.length name payload]
      (among b' cancelled before ⟨name, scope, .returned payload⟩ after) := by
  have h := Step.take (found_among b cancelled before ⟨name, scope, .looking false⟩ after) rfl taken
  rw [move_among] at h
  exact steps_enlist.step h

/-- A wait looks at the board and parks. -/
theorem steps_park (empty : b.take? name = none) :
    Steps (among b cancelled before ⟨name, scope, .starting⟩ after) []
      (among b cancelled before ⟨name, scope, .parked false⟩ after) := by
  have h := Step.park (found_among b cancelled before ⟨name, scope, .looking false⟩ after) rfl empty
  rw [move_among] at h
  exact steps_enlist.step h

/-- A wait that was woken begins anew. -/
theorem steps_resume : Steps (among b cancelled before ⟨name, scope, .parked true⟩ after) []
    (among b cancelled before ⟨name, scope, .starting⟩ after) := by
  have h := (Step.resume (found_among b cancelled before ⟨name, scope, .parked true⟩ after) rfl).steps
  rwa [move_among] at h

/-- A wait that has not ended may be dropped. -/
theorem steps_drop (live : w.stage.live = true) : Steps (among b cancelled before w after) []
    (among b cancelled before { w with stage := .dropped } after) := by
  have h := (Step.drop (found_among b cancelled before w after) live).steps
  rwa [move_among] at h

/-! ## A wait by itself -/

/-- A board on which everything is announced, with one wait. -/
abbrev alone (b : Board) (cancelled : List Nat) (w : Waiter) : State := among b cancelled [] w []

/-- A delivery that is still to come, as an event. -/
def arrival (e : Nat × String × Json) : Event := .delivered e.2.1 e.2.2

/-- Deliveries wake a wait that is parked. -/
theorem steps_deliverAll (due : List (Nat × String × Json)) (woken : Bool) :
    Steps (alone b cancelled ⟨name, scope, .parked woken⟩) (due.map arrival)
      (alone (due.foldl (fun b e => b.deliver e.2.1 e.2.2) b) cancelled
        ⟨name, scope, .parked (woken || !due.isEmpty)⟩) := by
  induction due generalizing b woken with
  | nil =>
    rw [List.isEmpty_nil, Bool.not_true, Bool.or_false]
    exact .refl
  | cons e due ih =>
    have hfirst : Steps (alone b cancelled ⟨name, scope, .parked woken⟩) [arrival e]
        (alone (b.deliver e.2.1 e.2.2) cancelled ⟨name, scope, .parked true⟩) :=
      steps_deliver [⟨name, scope, .parked woken⟩] e.2.1 e.2.2
    rw [List.isEmpty_cons, Bool.not_false, Bool.or_true]
    exact hfirst.trans (ih true)

/-- What a wait that is parked comes to when it is looked after: if it was woken, it looks again. -/
theorem steps_look (cancelled : List Nat) (scope : Nat) {woken : Bool}
    (quiet : woken = false → b.take? name = none) :
    (∀ payload b', b.take? name = some (payload, b') →
      Steps (alone b cancelled ⟨name, scope, .parked woken⟩) [.taken 0 name payload]
        (alone b' cancelled ⟨name, scope, .returned payload⟩)) ∧
    (b.take? name = none → Steps (alone b cancelled ⟨name, scope, .parked woken⟩) []
      (alone b cancelled ⟨name, scope, .parked false⟩)) := by
  cases woken with
  | false =>
    refine ⟨fun payload b' taken => ?_, fun _ => .refl⟩
    rw [quiet rfl] at taken
    cases taken
  | true =>
    exact ⟨fun _ _ taken => steps_resume.trans (steps_take taken), fun empty =>
      steps_resume.trans (steps_park empty)⟩

end Waiting

/-! ## Timelines -/

namespace Timeline

open Waiting

theorem foldl_deliver (t : Timeline) (due : List (Nat × String × Json)) :
    due.foldl (fun t e => t.deliver e.2.1 e.2.2) t =
      { t with board := due.foldl (fun b e => b.deliver e.2.1 e.2.2) t.board } := by
  induction due generalizing t with
  | nil => rfl
  | cons e due ih => exact ih (t.deliver e.2.1 e.2.2)

theorem take?_of_some {t : Timeline} {name : String} {payload : Json} {b : Board}
    (h : t.board.take? name = some (payload, b)) :
    take? name t = some (payload, { t with board := b }) := by
  rw [take?, h]
  rfl

theorem take?_of_none {t : Timeline} {name : String} (h : t.board.take? name = none) :
    take? name t = none := by
  rw [take?, h]
  rfl

/-- The clock moves on to a time and brings the deliveries that are due by then. -/
theorem moveTo_eq (t : Timeline) (time : Nat) :
    ∃ due, t.coming = due ++ (t.moveTo time).coming ∧ (t.moveTo time).planned = t.planned ∧
      (t.moveTo time).board = due.foldl (fun b e => b.deliver e.2.1 e.2.2) t.board := by
  refine ⟨t.coming.takeWhile fun e => e.1 ≤ time, ?_⟩
  unfold moveTo
  rw [foldl_deliver]
  exact ⟨(List.prefix_iff_eq_append.1 (List.takeWhile_prefix _)).symm, rfl, rfl⟩

/-- What a search for a payload takes. -/
def taking (name : String) (found : Option Json) : List Waiting.Event :=
  found.toList.map (.taken 0 name)

/-- Where a wait is when a search for its payload is over. -/
def Finds : Option Json → Waiting.Stage → Prop
  | some payload, stage => stage = .returned payload
  | none, stage => ∃ woken, stage = .parked woken

variable {t : Timeline} {name : String} {cancelled : List Nat} {scope : Nat}

/-- Whether a search on a timeline goes through the steps of a wait: what came due is delivered, and
what is found is taken. -/
def Searches (t : Timeline) (cancelled : List Nat) (w : Waiter) (r : Option Json × Timeline) : Prop :=
  ∃ due stage, t.coming = due ++ r.2.coming ∧ r.2.planned = t.planned ∧ Finds r.1 stage ∧
    Steps (alone t.board cancelled w) (due.map arrival ++ taking w.name r.1)
      (alone r.2.board cancelled { w with stage })

/-- The time is up. -/
theorem searches_moveTo (deadline : Nat) (woken : Bool) :
    t.Searches cancelled ⟨name, scope, .parked woken⟩ (none, t.moveTo deadline) := by
  obtain ⟨due, hcoming, hplanned, hboard⟩ := t.moveTo_eq deadline
  refine ⟨due, .parked (woken || !due.isEmpty), hcoming, hplanned, ⟨_, rfl⟩, ?_⟩
  show Steps _ (due.map arrival ++ []) (alone (t.moveTo deadline).board ..)
  rw [List.append_nil, hboard]
  exact steps_deliverAll due woken

/-- A search goes through the steps of a wait that is parked in front of an empty queue. -/
theorem searches_waitFor (cancelled : List Nat) (scope deadline : Nat) (times : List Nat)
    (quiet : t.board.take? name = none) :
    t.Searches cancelled ⟨name, scope, .parked false⟩ (waitFor (take? name) deadline times t) := by
  induction times generalizing t with
  | nil => exact searches_moveTo deadline false
  | cons time times ih =>
    unfold waitFor
    split
    · exact searches_moveTo deadline false
    · obtain ⟨due, hcoming, hmoved, hboard⟩ := t.moveTo_eq time
      have hdelivered : Steps (alone t.board cancelled ⟨name, scope, .parked false⟩)
          (due.map arrival) (alone (t.moveTo time).board cancelled
            ⟨name, scope, .parked (false || !due.isEmpty)⟩) := by
        rw [hboard]
        exact steps_deliverAll due false
      -- a wait that was not woken has nothing to find
      have hquiet : (false || !due.isEmpty) = false → (t.moveTo time).board.take? name = none := by
        intro hnone
        obtain rfl : due = [] := by simpa using hnone
        rw [hboard]
        exact quiet
      obtain ⟨htakes, hparks⟩ := steps_look cancelled scope hquiet
      dsimp only
      cases hlook : (t.moveTo time).board.take? name with
      | some found =>
        obtain ⟨payload, b⟩ := found
        rw [take?_of_some hlook]
        exact ⟨due, _, hcoming, hmoved, rfl, hdelivered.trans (htakes payload b hlook)⟩
      | none =>
        rw [take?_of_none hlook]
        obtain ⟨later, stage, hlater, hplanned, hfinds, hsteps⟩ := ih hlook
        refine ⟨due ++ later, stage, ?_, hplanned.trans hmoved, hfinds, ?_⟩
        · rw [hcoming, hlater, List.append_assoc]
        · rw [List.map_append, List.append_assoc]
          exact hdelivered.trans ((hparks hlook).trans hsteps)

/-- The deliveries that are still to come, in the order of their times, when those that are planned are
counted down from now on. -/
def ahead (t : Timeline) : List (Nat × String × Json) := t.counting.coming

theorem pairwise_ahead (t : Timeline) : t.ahead.Pairwise fun a b => a.1 ≤ b.1 := by
  have htrans (a b c : Nat × String × Json) (hab : decide (a.1 ≤ b.1) = true)
      (hbc : decide (b.1 ≤ c.1) = true) : decide (a.1 ≤ c.1) = true :=
    decide_eq_true (Nat.le_trans (of_decide_eq_true hab) (of_decide_eq_true hbc))
  have htotal (a b : Nat × String × Json) : (decide (a.1 ≤ b.1) || decide (b.1 ≤ a.1)) = true := by
    simpa using Nat.le_total a.1 b.1
  exact (List.pairwise_mergeSort htrans htotal _).imp of_decide_eq_true

/-- What is counted down already is in the order of its times. -/
theorem ahead_of_counted (hplanned : t.planned = [])
    (hsorted : t.coming.Pairwise fun a b => a.1 ≤ b.1) : t.ahead = t.coming := by
  unfold ahead counting
  rw [hplanned]
  dsimp only
  rw [List.map_nil, List.append_nil]
  exact List.mergeSort_of_pairwise (hsorted.imp decide_eq_true)

/-! ## Waits -/

/-- A pause goes through the steps of a wait that is parked in front of an empty queue. It is dropped
when the time is up. -/
theorem pause_steps (cancelled : List Nat) (scope ms : Nat) (quiet : t.board.take? name = none) :
    ∃ due, t.ahead = due ++ (t.pause (take? name) ms).2.ahead ∧
      Steps (alone t.board cancelled ⟨name, scope, .parked false⟩)
        (due.map arrival ++ taking name (t.pause (take? name) ms).1)
        (alone (t.pause (take? name) ms).2.board cancelled
          ⟨name, scope, (t.pause (take? name) ms).1.elim .dropped .returned⟩) := by
  have hdropped {b : Board} (woken : Bool) : Steps (alone b cancelled ⟨name, scope, .parked woken⟩) []
      (alone b cancelled ⟨name, scope, .dropped⟩) :=
    steps_drop rfl
  unfold pause
  by_cases hms : ms = 0
  · rw [if_pos hms]
    exact ⟨[], rfl, hdropped false⟩
  · rw [if_neg hms]
    have hsearch := searches_waitFor (t := t.counting) cancelled scope (t.counting.now + ms)
      (t.counting.coming.map Prod.fst) quiet
    dsimp only
    revert hsearch
    generalize waitFor (take? name) (t.counting.now + ms) (t.counting.coming.map Prod.fst)
      t.counting = r
    rintro ⟨due, stage, hcoming, hplanned, hfinds, hsteps⟩
    obtain ⟨found, t'⟩ := r
    -- what comes due during the pause is at the front of what is ahead, since that is in order
    have hahead : t.ahead = due ++ t'.ahead := by
      have hsorted := t.pairwise_ahead
      rw [ahead, hcoming] at hsorted
      rw [ahead_of_counted hplanned (List.pairwise_append.1 hsorted).2.1]
      exact hcoming
    refine ⟨due, hahead, ?_⟩
    cases found with
    | some payload =>
      cases hfinds
      exact hsteps
    | none =>
      obtain ⟨woken, rfl⟩ := hfinds
      have hended := hsteps.trans (hdropped woken)
      rwa [List.append_nil] at hended

/-- The scope that the observer waits in, if it is cancelled. -/
def scopes (t : Timeline) : List Nat := if t.cancelled then [0] else []

/-- The payload that a wait is answered with. -/
def paid (answer : Option (Except Fault Json)) : Option Json := answer.bind Except.toOption

/-- Where a wait is when it is answered; one without an answer is dropped. -/
def Ends (name : String) : Option (Except Fault Json) → Waiting.Stage → Prop
  | some (.ok payload), stage => stage = .returned payload
  | some (.error f), stage => f = .cancelled ("signal:" ++ name) ∧ stage = .cancelled
  | none, stage => stage = .dropped

/-- A wait on a timeline goes through the steps of one wait, among the deliveries that come due. It
takes the payload that it is answered with, and nothing without one. -/
theorem wait_steps (t : Timeline) (name : String) (ms : Nat) :
    ∃ due stage, t.ahead = due ++ (t.wait name ms).2.ahead ∧ Ends name (t.wait name ms).1 stage ∧
      Steps (alone t.board t.scopes ⟨name, 0, .starting⟩)
        (due.map arrival ++ taking name (paid (t.wait name ms).1))
        (alone (t.wait name ms).2.board t.scopes ⟨name, 0, stage⟩) := by
  unfold wait
  cases htake : t.board.take? name with
  | some found =>
    obtain ⟨payload, b⟩ := found
    rw [take?_of_some htake]
    exact ⟨[], _, rfl, rfl, steps_take htake⟩
  | none =>
    -- with an empty queue the wait is parked, and only then looks whether it is cancelled
    have hparked : Steps (alone t.board t.scopes ⟨name, 0, .starting⟩) []
        (alone t.board t.scopes ⟨name, 0, .parked false⟩) := steps_park htake
    rw [take?_of_none htake]
    dsimp only
    by_cases hcancelled : t.cancelled = true
    · rw [if_pos hcancelled]
      refine ⟨[], .cancelled, rfl, ⟨rfl, rfl⟩, ?_⟩
      exact hparked.step (.cease (i := 0) (w := ⟨name, 0, .parked false⟩) rfl rfl
        (by simp [among, scopes, hcancelled]))
    · rw [if_neg hcancelled]
      obtain ⟨due, hahead, hsteps⟩ := pause_steps t.scopes 0 ms htake
      dsimp only
      revert hahead hsteps
      generalize t.pause (take? name) ms = r
      intro hahead hsteps
      obtain ⟨found, t'⟩ := r
      refine ⟨due, found.elim .dropped .returned, hahead, ?_, ?_⟩
      · cases found <;> rfl
      · cases found <;> exact hparked.trans hsteps

theorem takenOf_arrivals (other : String) (due : List (Nat × String × Json)) :
    takenOf other (due.map arrival) = [] := by
  rw [takenOf, List.filterMap_map]
  exact List.filterMap_eq_nil_iff.2 fun _ _ => rfl

theorem deliveredOf_taking (other : String) (found : Option Json) :
    deliveredOf other (taking name found) = [] := by
  cases found <;> rfl

/-- What a wait is answered with, what it leaves behind and what is still to come is what was there and
was to come. -/
theorem wait_keeps (t : Timeline) (name : String) (ms : Nat) (other : String) :
    takenOf other (taking name (paid (t.wait name ms).1)) ++
        ((t.wait name ms).2.board.queue other ++
          deliveredOf other ((t.wait name ms).2.ahead.map arrival)) =
      t.board.queue other ++ deliveredOf other (t.ahead.map arrival) := by
  obtain ⟨due, stage, hahead, -, hsteps⟩ := t.wait_steps name ms
  have hqueue : _ ++ (t.wait name ms).2.board.queue other = t.board.queue other ++ _ :=
    hsteps.queue other
  rw [takenOf_append, takenOf_arrivals, List.nil_append, deliveredOf_append, deliveredOf_taking,
    List.append_nil] at hqueue
  rw [hahead, List.map_append, deliveredOf_append, ← List.append_assoc, hqueue, List.append_assoc]

end Timeline

end TaskGraph
