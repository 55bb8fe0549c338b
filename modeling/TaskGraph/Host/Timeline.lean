import TaskGraph.Fault
import TaskGraph.Host.Board

/-!
# A board over time

A timeline is a signal board, a clock and deliveries that are still to come. One observer acts on it,
step by step; the clock moves only while the observer waits. Deliveries are counted from the next wait
after they were planned, because nothing else runs before the observer waits.
-/

set_option autoImplicit false

namespace TaskGraph

/-- A signal board at a time. -/
structure Timeline where
  now : Nat
  board : Board
  cancelled : Bool
  /-- Deliveries that are planned but not counted down yet, with their delays. -/
  planned : List (Nat × String × Json)
  /-- Deliveries that are counted down, with their times. -/
  coming : List (Nat × String × Json)
  deriving Repr, DecidableEq

namespace Timeline

/-- An empty board at time zero. -/
def start : Timeline := ⟨0, .empty, false, [], []⟩

/-- Delivers a signal now. -/
def deliver (t : Timeline) (name : String) (payload : Json) : Timeline :=
  { t with board := t.board.deliver name payload }

/-- Plans a delivery. -/
def plan (t : Timeline) (after : Nat) (name : String) (payload : Json) : Timeline :=
  { t with planned := t.planned ++ [(after, name, payload)] }

/-- Sets the response to a query. -/
def respond (t : Timeline) (name : String) (response : Json) : Timeline :=
  { t with board := t.board.respond name response }

/-- Cancels every wait from now on. -/
def cancel (t : Timeline) : Timeline := { t with cancelled := true }

/-- Starts to count the planned deliveries down, in the order of their times. -/
def counting (t : Timeline) : Timeline :=
  let started := t.planned.map fun (after, e) => (t.now + after, e)
  { t with planned := [], coming := (t.coming ++ started).mergeSort fun a b => a.1 ≤ b.1 }

/-- Moves the clock to a time and delivers what is due by then. -/
def moveTo (t : Timeline) (time : Nat) : Timeline :=
  let due := t.coming.takeWhile fun e => e.1 ≤ time
  let t := { t with now := max t.now time, coming := t.coming.drop due.length }
  due.foldl (fun t e => t.deliver e.2.1 e.2.2) t

/-- Waits until something that is looked for is there after a delivery, and no longer than to a
deadline. The times are those at which deliveries are due. -/
def waitFor {α : Type} (look : Timeline → Option (α × Timeline)) (deadline : Nat) :
    List Nat → Timeline → Option α × Timeline
  | [], t => (none, t.moveTo deadline)
  | time :: times, t =>
    if deadline < time then (none, t.moveTo deadline)
    else
      let t := t.moveTo time
      match look t with
      | some (a, t) => (some a, t)
      | none => waitFor look deadline times t

/-- Waits for some milliseconds at most; a wait of no time ends at once. -/
def pause {α : Type} (t : Timeline) (look : Timeline → Option (α × Timeline)) (ms : Nat) :
    Option α × Timeline :=
  if ms = 0 then (none, t)
  else
    let t := t.counting
    waitFor look (t.now + ms) (t.coming.map Prod.fst) t

/-- Takes the oldest payload of a name. -/
def take? (name : String) (t : Timeline) : Option (Json × Timeline) :=
  (t.board.take? name).map fun (p, b) => (p, { t with board := b })

/-- Waits for a signal. A payload that is there is taken even when the wait is cancelled; without an
answer the time was up. -/
def wait (t : Timeline) (name : String) (ms : Nat) : Option (Except Fault Json) × Timeline :=
  match take? name t with
  | some (p, t) => (some (.ok p), t)
  | none =>
    if t.cancelled then (some (.error (.cancelled ("signal:" ++ name))), t)
    else
      let (p, t) := t.pause (take? name) ms
      (p.map .ok, t)

/-- Waits for any delivery; false when the time was up before. -/
def change (t : Timeline) (ms : Nat) : Bool × Timeline :=
  let (seen, t) := t.pause (fun t => some ((), t)) ms
  (seen.isSome, t)

end Timeline

end TaskGraph
