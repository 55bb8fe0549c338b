import TaskGraph.Execution.Dialogue
import TaskGraph.Execution.Retry

/-!
# Calls

The arguments of a call are evaluated right before it. A call is attempted until it succeeds, fails in
a way that another attempt cannot mend, or has used up its attempts; each attempt is written to the
history when it begins and when it fails, and the call when it succeeds.
-/

set_option autoImplicit false

namespace TaskGraph

/-- A program and the terms on which its calls are made. -/
structure Setting where
  program : Program
  retry : RetryPolicy
  /-- The time of an attempt whose task sets none. -/
  timeout : Duration

namespace Calling

/-- Evaluates what a task carries, and reads it again. -/
def interpolate {α : Type} (task : String) (decode : Decoder α) (payload : Json) (s : Scope) :
    Running α := do
  let v ← Running.traverse payload s []
  match decode v with
  | .ok a => pure a
  | .error e =>
    throw (.invalidTask task ("interpolated arguments do not fit the call: " ++ e))

/-- Tries an operation until it succeeds or there is no reason or no right to try again. The first
number is that of the attempt, from one; the other one counts the attempts that are left after it. -/
def retrying {α : Type} (policy : RetryPolicy) (c : Context) (operation : Nat → Running α) :
    Nat → Nat → Running α
  | attempt, left => do
    match ← (operation attempt).outcome with
    | .ok v => pure v
    | .error f =>
      if f.retryable then
        match left with
        | 0 => throw f
        | left + 1 => do
          if ← Running.pause c (policy.delay (attempt - 1)) then
            retrying policy c operation (attempt + 1) left
          else throw (.cancelled "retry")
      else throw f

/-- Tries an operation as often as a policy says. -/
def attempts {α : Type} (policy : RetryPolicy) (c : Context) (operation : Nat → Running α) :
    Running α :=
  retrying policy c operation 1 (policy.maxAttempts - 1)

/-- Makes one attempt and writes it to the history. -/
def attempt (c : Context) (r : CallRequest) (timeout : Duration) (number : Nat) : Running Json := do
  let call := r.invocation.identifier
  Running.record c (.callScheduled call number)
  match ← (Running.dispatch c r timeout).outcome with
  | .ok v => pure v
  | .error f => do
    Running.record c (.callFailed call f.message f.retryable)
    throw f

/-- Performs a call with its attempts. -/
def perform (e : Setting) (c : Context) (r : CallRequest) : Running Json := do
  let v ← attempts e.retry c (attempt c r (r.timeout.getD e.timeout))
  Running.record c (.callCompleted r.invocation.identifier 0)
  pure v

/-- Performs a call, unless the host answers it outright. -/
def request (e : Setting) (c : Context) (r : CallRequest) : Running Json := do
  Running.tell (.call r)
  match ← Running.ask (.offer r) with
  | some result => Running.ofExcept result
  | none => perform e c r

/-- The interval of the heartbeats that a task declares. A malformed one and a zero declare none. -/
def heartbeat? (metadata : Members) : Option Duration :=
  match metadata.get? "heartbeat" with
  | none => none
  | some v => match DurationSpec.decode v with
    | .error _ => none
    | .ok d => match d.toDuration with
      | .error _ => none
      | .ok d => if d.isZero then none else some d

/-- Performs a call with heartbeats while it lasts. -/
def withHeartbeat (c : Context) (metadata : Members) (call : Running Json) : Running Json :=
  match heartbeat? metadata with
  | none => call
  | some interval => do
    Running.tell (.heartbeat interval)
    let beat ← Running.ask (.beat c interval)
    let result ← call.outcome
    Running.ask (.still beat)
    Running.ofExcept result

/-- The invocation of a call task. -/
def callInvocation (task : String) (s : Scope) : Call → Running Invocation
  | .activity call => do return .activity (← interpolate task ActivityCall.decode call.toJson s)
  | .http call => do return .http (← interpolate task HttpCall.decode call.toJson s)
  | .grpc call => do return .grpc (← interpolate task GrpcCall.decode call.toJson s)

/-- Runs a task that makes a call. -/
def invoke (e : Setting) (c : Context) (task : String) (base : TaskBase) (timeout : Option Duration)
    (invocation : Running Invocation) : Running Json := do
  let i ← invocation
  withHeartbeat c base.metadata (request e c ⟨task, i, timeout⟩)

end Calling

end TaskGraph
