import TaskGraph.Execution.Calling
import TaskGraph.Proofs.Dialogue

/-!
# The blocks that calls write

A call that is performed writes to the history when an attempt begins, when one fails, and when the call
succeeds. These events make up a block: attempts that are numbered from one, each but the last of which
failed in a way that another one might mend, and then how the last one ended (`CallBlock.events`).

A dialogue is played with the answers to its requests (`Dialogue.Plays`). However a call is played to its
end, what it has written is one block, which tells whether the call came to a value and is no longer than
the policy allows; it is shorter, although the last fault could be mended, only if a wait between two
attempts was cut short (`Calling.Execution.block`).
-/

set_option autoImplicit false

namespace TaskGraph

variable {α β : Type}

/-! ## Playing dialogues -/

/-- A request that was made, and what it was answered with. -/
structure Exchange where
  request : Request
  answer : request.Answer

namespace Exchange

/-- The event that was written, if one was. -/
def event? (x : Exchange) : Option HistoryEvent :=
  match x.request with
  | .record _ ev => some ev
  | _ => none

/-- Whether a wait was cut short. -/
def cut : Exchange → Bool
  | ⟨.pause .., up⟩ => !up
  | _ => false

/-- The events that were written, in order. -/
def written (log : List Exchange) : List HistoryEvent := log.filterMap event?

/-- Whether some wait was cut short. -/
def Interrupted (log : List Exchange) : Prop := ∃ x ∈ log, x.cut = true

theorem written_append (log log' : List Exchange) :
    written (log ++ log') = written log ++ written log' :=
  List.filterMap_append

theorem interrupted_append {log log' : List Exchange} :
    Interrupted (log ++ log') ↔ Interrupted log ∨ Interrupted log' := by
  simp only [Interrupted, List.mem_append, or_and_right, exists_or]

end Exchange

open Exchange (written Interrupted written_append interrupted_append)

namespace Dialogue

/-- Whether a dialogue goes on as another one once its requests have been answered as in a log. -/
inductive Plays : Dialogue α → List Exchange → Dialogue α → Prop where
  | refl (d : Dialogue α) : Plays d [] d
  | ask {q : Request} {k : q.Answer → Dialogue α} {x : q.Answer} {log : List Exchange}
      {d : Dialogue α} (rest : Plays (k x) log d) : Plays (.ask q k) (⟨q, x⟩ :: log) d

variable {d : Dialogue α} {log : List Exchange} {q : Request} {k : q.Answer → Dialogue α}

/-- One more request is answered. -/
theorem Plays.snoc (h : d.Plays log (.ask q k)) (x : q.Answer) :
    d.Plays (log ++ [⟨q, x⟩]) (k x) := by
  generalize htarget : Dialogue.ask q k = target at h
  induction h with
  | refl => exact htarget ▸ .ask (.refl _)
  | ask _ ih => exact .ask (ih htarget)

theorem plays_done {a b : α} (h : (done a).Plays log (done b)) : log = [] ∧ b = a := by
  cases h
  exact ⟨rfl, rfl⟩

theorem plays_ask {b : α} (h : (ask q k).Plays log (done b)) :
    ∃ x rest, log = ⟨q, x⟩ :: rest ∧ (k x).Plays rest (done b) := by
  cases h with
  | ask rest => exact ⟨_, _, rfl, rest⟩

/-- A dialogue that goes on as another one is played to its end first. -/
theorem plays_bind {f : α → Dialogue β} {b : β} (h : (d.bind f).Plays log (done b)) :
    ∃ before after a, log = before ++ after ∧ d.Plays before (done a) ∧
      (f a).Plays after (done b) := by
  induction d generalizing log with
  | done a => exact ⟨[], log, a, rfl, .refl _, h⟩
  | ask q k ih =>
    obtain ⟨x, rest, rfl, hrest⟩ := plays_ask h
    obtain ⟨before, after, a, rfl, hbefore, hafter⟩ := ih x hrest
    exact ⟨⟨q, x⟩ :: before, after, a, rfl, .ask hbefore, hafter⟩

/-- A dialogue that makes only requests of a kind makes one of the kind whenever it is played. -/
theorem Heeds.allows {allowed : Request → Prop} {P : α → Prop}
    (h : d.Heeds allowed (fun _ _ => True) P) (hplays : d.Plays log (.ask q k)) : allowed q := by
  generalize htarget : Dialogue.ask q k = target at hplays
  induction hplays with
  | refl =>
    subst htarget
    exact h.1
  | ask _ ih => exact ih (h.2 _ trivial) htarget

end Dialogue

/-! ## Blocks -/

/-- How the last attempt of a call ended: with the call, or with a fault. -/
inductive CallEnd where
  | completed (durationMs : Nat)
  | failed (error : String) (retryable : Bool)
  deriving DecidableEq

/-- The event that says how a call ended. -/
def CallEnd.event (call : String) : CallEnd → HistoryEvent
  | completed durationMs => .callCompleted call durationMs
  | failed error retryable => .callFailed call error retryable

/-- The attempts of one call: what the messages of those were that were tried again, and how the last
one ended. -/
structure CallBlock where
  call : String
  retried : List String
  ending : CallEnd

namespace CallBlock

/-- The number of attempts. -/
def attempts (b : CallBlock) : Nat := b.retried.length + 1

/-- The events of attempts that were tried again, numbered on from a number. -/
def retries (call : String) : Nat → List String → List HistoryEvent
  | _, [] => []
  | n, error :: errors =>
    .callScheduled call n :: .callFailed call error true :: retries call (n + 1) errors

/-- The events of a block, in order. -/
def events (b : CallBlock) : List HistoryEvent :=
  retries b.call 1 b.retried ++ [.callScheduled b.call b.attempts, b.ending.event b.call]

end CallBlock

/-- Whether a request is one of those that a call in a context is made of. -/
def Request.OfCall (c : Context) : Request → Prop
  | .record c' ev => c' = c ∧ ev.call?.isSome = true
  | .dispatch c' .. | .pause c' _ => c' = c
  | _ => False

namespace Calling

open CallBlock (retries)
open Running (Any)

variable {e : Setting} {c : Context} {r : CallRequest} {timeout : Duration} {log : List Exchange}

/-! ## Attempts -/

/-- What is written of an attempt with an outcome: that it began, and if it failed, how. -/
def notes (call : String) (n : Nat) : Except Fault Json → List HistoryEvent
  | .ok _ => [.callScheduled call n]
  | .error f => [.callScheduled call n, .callFailed call f.message f.retryable]

theorem written_attempt {n : Nat} {x : Except Fault Json}
    (h : (attempt c r timeout n).run.Plays log (.done x)) :
    written log = notes r.invocation.identifier n x := by
  obtain ⟨_, _, rfl, hdispatch⟩ := Dialogue.plays_ask h
  obtain ⟨outcome, _, rfl, hended⟩ := Dialogue.plays_ask hdispatch
  cases outcome with
  | ok v =>
    obtain ⟨rfl, rfl⟩ := Dialogue.plays_done hended
    rfl
  | error f =>
    obtain ⟨_, _, rfl, hthrown⟩ := Dialogue.plays_ask hended
    obtain ⟨rfl, rfl⟩ := Dialogue.plays_done hthrown
    rfl

/-- Whether attempts were made as a log tells, numbered on from a number, with some more left after the
first: those with the given messages were tried again, and then one succeeded or failed for good. -/
def Tried (call : String) (n left : Nat) (log : List Exchange) (errors : List String) :
    Except Fault Json → Prop
  | .ok _ => errors.length ≤ left ∧
      written log = retries call n errors ++ [.callScheduled call (n + errors.length)]
  | .error _ => errors.length ≤ left ∧ ∃ error retryable,
      written log = retries call n errors ++
        [.callScheduled call (n + errors.length), .callFailed call error retryable] ∧
      (retryable = true → errors.length < left → Interrupted log)

/-- One more attempt was tried again before the others. -/
theorem Tried.cons {call error : String} {n left : Nat} {first : List Exchange} {errors : List String}
    {x : Except Fault Json} (h : Tried call (n + 1) left log errors x)
    (hfirst : written first = [.callScheduled call n, .callFailed call error true]) :
    Tried call n (left + 1) (first ++ log) (error :: errors) x := by
  have hnumber : n + (errors.length + 1) = n + 1 + errors.length := by omega
  cases x with
  | ok v =>
    obtain ⟨hle, hwritten⟩ := h
    refine ⟨Nat.succ_le_succ hle, ?_⟩
    rw [written_append, hfirst, hwritten, List.length_cons, hnumber]
    rfl
  | error f =>
    obtain ⟨hle, last, retryable, hwritten, hcut⟩ := h
    refine ⟨Nat.succ_le_succ hle, last, retryable, ?_, fun hretryable hlt => ?_⟩
    · rw [written_append, hfirst, hwritten, List.length_cons, hnumber]
      rfl
    · exact interrupted_append.2 (.inr (hcut hretryable (Nat.lt_of_succ_lt_succ hlt)))

/-- What is written of attempts that are made until there is no reason or no right to try again. -/
theorem tried_retrying {policy : RetryPolicy} {n left : Nat} {x : Except Fault Json}
    (h : (retrying policy c (attempt c r timeout) n left).run.Plays log (.done x)) :
    ∃ errors, Tried r.invocation.identifier n left log errors x := by
  induction left using Nat.strongRecOn generalizing n log with | ind left ih =>
  rw [retrying.eq_def, Running.run_outcome_bind] at h
  obtain ⟨first, log, y, rfl, hfirst, h⟩ := Dialogue.plays_bind h
  have hwritten := written_attempt hfirst
  cases y with
  | ok v =>
    obtain ⟨rfl, rfl⟩ := Dialogue.plays_done h
    exact ⟨[], Nat.zero_le _, by rw [List.append_nil]; exact hwritten⟩
  | error f =>
    cases left with
    | zero =>
      have hended : log = [] ∧ x = .error f := by
        revert h
        cases hretryable : f.retryable <;> simp only [hretryable] <;> exact Dialogue.plays_done
      obtain ⟨rfl, rfl⟩ := hended
      exact ⟨[], Nat.le_refl _, f.message, f.retryable, by rw [List.append_nil]; exact hwritten, nofun⟩
    | succ left =>
      cases hretryable : f.retryable with
      | false =>
        simp only [hretryable, notes] at h hwritten
        obtain ⟨rfl, rfl⟩ := Dialogue.plays_done h
        exact ⟨[], Nat.zero_le _, f.message, false, by rw [List.append_nil]; exact hwritten, nofun⟩
      | true =>
        simp only [hretryable, if_true, notes] at h hwritten
        obtain ⟨up, _, rfl, hended⟩ := Dialogue.plays_ask h
        cases up with
        | true =>
          obtain ⟨errors, htried⟩ := ih left left.lt_succ_self hended
          refine ⟨f.message :: errors, ?_⟩
          rw [List.append_cons]
          refine htried.cons ?_
          rw [written_append, hwritten]
          rfl
        | false =>
          -- the wait was cut short, so no other attempt is made
          obtain ⟨rfl, rfl⟩ := Dialogue.plays_done hended
          refine ⟨[], Nat.zero_le _, f.message, true, ?_, fun _ _ => ?_⟩
          · rw [written_append, hwritten]
            rfl
          · exact interrupted_append.2 (.inr ⟨_, List.mem_cons_self .., rfl⟩)

/-! ## Calls -/

/-- What a call in a context is made of. -/
theorem heeds_perform (e : Setting) (c : Context) (r : CallRequest) :
    (perform e c r).run.Heeds (Request.OfCall c) (fun _ _ => True) Any := by
  have hattempt (n : Nat) : Running.Heeds (Request.OfCall c) (fun _ _ => True) Any Any
      (attempt c r (r.timeout.getD e.timeout) n) := by
    refine ⟨⟨rfl, rfl⟩, fun _ _ => ⟨rfl, fun x _ => ?_⟩⟩
    cases x with
    | ok v => trivial
    | error f => exact ⟨⟨rfl, rfl⟩, fun _ _ => trivial⟩
  have hretrying (n left : Nat) : Running.Heeds (Request.OfCall c) (fun _ _ => True) Any Any
      (retrying e.retry c (attempt c r (r.timeout.getD e.timeout)) n left) := by
    induction left using Nat.strongRecOn generalizing n with | ind left ih =>
    rw [retrying.eq_def]
    refine .bind (.outcome (hattempt n)) fun x _ => ?_
    cases x with
    | ok v => exact .pure trivial
    | error f =>
      cases left with
      | zero => cases hf : f.retryable <;> (simp only [hf]; exact .throw trivial)
      | succ left =>
        cases hf : f.retryable with
        | false =>
          simp only [hf]
          exact .throw trivial
        | true =>
          simp only [hf]
          refine .bind (.ask (q := .pause c _) (R := Any) rfl fun _ _ => trivial) fun up _ => ?_
          cases up with
          | true => exact ih left left.lt_succ_self _
          | false => exact .throw trivial
  have hperform : Running.Heeds (Request.OfCall c) (fun _ _ => True) Any Any (perform e c r) :=
    .bind (hretrying 1 _) fun _ _ =>
      .bind (.ask (q := .record c _) (R := Any) ⟨rfl, rfl⟩ fun _ _ => trivial) fun _ _ => .pure trivial
  exact Dialogue.Heeds.mono hperform fun _ _ => trivial

/-- A call that has been performed to its end: the context and the terms of the call, what its requests
were answered, and what it came to. -/
structure Execution (e : Setting) where
  context : Context
  request : CallRequest
  log : List Exchange
  result : Except Fault Json
  plays : (perform e context request).run.Plays log (.done result)

namespace Execution

/-- The events that a call has written. -/
def events (x : Execution e) : List HistoryEvent := written x.log

/-- Whether a wait between two attempts was cut short. -/
def Interrupted (x : Execution e) : Prop := Exchange.Interrupted x.log

/-- Whether what a call has written is a block, which is as long as it may be and tells how the call
ended. -/
structure Writes (x : Execution e) (b : CallBlock) : Prop where
  events : x.events = b.events
  call : b.call = x.request.invocation.identifier
  attempts : b.attempts ≤ max 1 e.retry.maxAttempts
  completed : (∃ durationMs, b.ending = .completed durationMs) ↔ ∃ v, x.result = .ok v
  exhausted : ∀ error, b.ending = .failed error true → b.attempts < max 1 e.retry.maxAttempts →
    x.Interrupted

/-- A call writes one block. -/
theorem block (x : Execution e) : ∃ b, x.Writes b := by
  obtain ⟨c, r, log, result, hplays⟩ := x
  unfold perform attempts at hplays
  rw [Running.run_bind] at hplays
  obtain ⟨tries, log, y, rfl, htries, hplays⟩ := Dialogue.plays_bind hplays
  obtain ⟨errors, htried⟩ := tried_retrying htries
  -- what is written besides the tries is the end of a call that came back; a failed one ends in its
  -- last try
  cases y with
  | ok v =>
    obtain ⟨_, _, rfl, hended⟩ := Dialogue.plays_ask hplays
    obtain ⟨rfl, rfl⟩ := Dialogue.plays_done hended
    obtain ⟨hle, hwritten⟩ := htried
    refine ⟨⟨r.invocation.identifier, errors, .completed 0⟩, ?_, rfl, ?_, ?_, nofun⟩
    · show written (tries ++ _) = _ ++ _
      rw [written_append, hwritten, Nat.add_comm]
      exact List.append_assoc ..
    · show errors.length + 1 ≤ _
      omega
    · exact iff_of_true ⟨0, rfl⟩ ⟨v, rfl⟩
  | error f =>
    obtain ⟨rfl, rfl⟩ := Dialogue.plays_done hplays
    obtain ⟨hle, error, retryable, hwritten, hcut⟩ := htried
    refine ⟨⟨r.invocation.identifier, errors, .failed error retryable⟩, ?_, rfl, ?_, ?_, ?_⟩
    · show written (tries ++ []) = _ ++ _
      rw [List.append_nil, hwritten, Nat.add_comm]
      rfl
    · show errors.length + 1 ≤ _
      omega
    · exact iff_of_false nofun nofun
    · rintro error' heq hlt
      cases heq
      have hlt : errors.length + 1 < _ := hlt
      exact interrupted_append.2 (.inl (hcut rfl (by omega)))

end Execution

end Calling

end TaskGraph
