import TaskGraph.Execution.Sequence
import TaskGraph.Host.Board

/-!
# A host on a virtual clock

A host conducts dialogues side by side, as strands. A strand runs until it has to wait; the clock stands
still while a strand can run, and jumps to the next appointment when none can. The strands of one job
take turns before those of another: a job is what was started first, or a graph that was detached.

What handlers do is a function of the calls that were made before, so a host has no state outside of the
structure below.
-/

set_option autoImplicit false

namespace TaskGraph

/-- An answer of a handler: what it answers, and after how many milliseconds; a handler may never
answer. -/
structure Reply where
  delay : Option Nat
  result : Except Fault Json

/-- What is around a host. -/
structure Surroundings where
  /-- The answer to a call, given the calls before it, oldest first; nothing answers a call that has no
  handler. -/
  handler : List Invocation → Invocation → Option Reply
  /-- The answer to a call that is answered outright. -/
  gateway : List Invocation → Invocation → Option Reply
  /-- Whether runs are told to restart, whatever the lengths of their histories are. -/
  suggests : Option Bool
  /-- The length of a history beyond which a run is told to restart; zero for never. -/
  suggestAfter : Nat

namespace Surroundings

/-- No handlers, and no suggestions before a history is longer than a length. -/
def bare (suggestAfter : Nat) : Surroundings :=
  ⟨fun _ _ => none, fun _ _ => none, none, suggestAfter⟩

end Surroundings

/-- How a strand ends: with the result of the whole, with the reply of a fork's branch, or with the end
of a detached graph, which its run is told. -/
inductive Ending (α : Type) where
  | result (value : α)
  | branch (reply : Except Fault Json)
  | detached (run : Nat)

/-- What a strand is at, and how it goes on. -/
inductive Phase (α : Type) where
  | ready (code : Dialogue (Ending α))
  /-- Goes on at a time. -/
  | delayed (due : Nat) (code : Dialogue (Ending α))
  /-- Waits for a handler or for its time to be up, whichever comes first; if neither comes, for ever. -/
  | calling (context : Context) (due : Option Nat) (task : String) (result : Except Fault Json)
      (next : Except Fault Json → Dialogue (Ending α))
  | pausing (context : Context) (due : Nat) (next : Bool → Dialogue (Ending α))
  /-- Waits for detached graphs, and looks again at a time. -/
  | settling (context : Context) (due : Nat) (next : Except Fault Unit → Dialogue (Ending α))
  | listening (context : Context) (mode : ListenMode) (slots : List (String × Option Json))
      (next : Except Fault (List (String × Json)) → Dialogue (Ending α))
  /-- Waits for a branch to reply. -/
  | joining (next : Nat × Except Fault Json → Dialogue (Ending α))

/-- A dialogue that is being conducted. -/
structure Strand (α : Type) where
  id : Nat
  job : Nat
  /-- The way from the job to the strand: the numbers of the branches that it is inside of. -/
  path : List Nat
  /-- The strand that forked this one. -/
  parent : Option Nat
  /-- The cancellation scopes of the branches of the current fork. -/
  branches : List Nat
  phase : Phase α

/-- The history of a run and the number of graphs that it has detached and that are not finished. -/
structure RunLog where
  history : History
  inFlight : Nat

/-- A heartbeat: every interval of nanoseconds, counted from a time, it is written to the history. -/
structure Heartbeat where
  id : Nat
  context : Context
  interval : Duration
  start : Nat
  beats : Nat

/-- Something that happens to a host at a time. -/
inductive Occurrence where
  | signal (name : String) (payload : Json)
  | cancel
  deriving Repr, DecidableEq

/-- A host. -/
structure Host (α : Type) where
  setting : Setting
  surroundings : Surroundings
  evaluator : Evaluator
  now : Nat
  strands : List (Strand α)
  /-- The strands that can run, in the order in which they were woken. -/
  queue : List Nat
  /-- The job whose turn it is. -/
  turn : Option Nat
  /-- The cancelled scopes. -/
  cancelled : List Nat
  /-- The next number for a strand, a job, a scope or a heartbeat. -/
  fresh : Nat
  runs : Array RunLog
  board : Board
  attributes : Members
  /-- What observers were told and when, latest first. -/
  journal : List (Nat × Notice)
  /-- The calls that handlers were asked, latest first. -/
  past : List Invocation
  heartbeats : List Heartbeat
  agenda : List (Nat × Occurrence)
  /-- The time at which the whole is given up, and its result then. -/
  deadline : Option (Nat × α)
  result : Option α
  /-- The time at which the result was there. -/
  finished : Nat

namespace Host

variable {α : Type}

/-- The scope that every other one is inside of. -/
def rootScope : Nat := 0

/-- The context of everything that a host is started with. -/
def rootContext : Context := ⟨0, [rootScope]⟩

/-- The job that a host is started with. -/
def mainJob : Nat := 0

/-- A host at time zero with one strand. -/
def start (setting : Setting) (surroundings : Surroundings) (wrapper : Wrapper)
    (code : Dialogue α) : Host α where
  setting := setting
  surroundings := surroundings
  evaluator := .standard wrapper
  now := 0
  strands := [⟨0, mainJob, [], none, [], .ready (code.map .result)⟩]
  queue := [0]
  turn := some mainJob
  cancelled := []
  fresh := 1
  runs := #[⟨.empty, 0⟩]
  board := .empty
  attributes := []
  journal := []
  past := []
  heartbeats := []
  agenda := []
  deadline := none
  result := none
  finished := 0

/-! ## Views -/

/-- Whether a scope around a context is cancelled. -/
def isCancelled (h : Host α) (c : Context) : Bool := c.scopes.any h.cancelled.contains

/-- The history of a run. -/
def history (h : Host α) (run : Nat) : History :=
  match h.runs[run]? with
  | some r => r.history
  | none => .empty

/-- The number of unfinished graphs that a run has detached. -/
def inFlight (h : Host α) (run : Nat) : Nat :=
  match h.runs[run]? with
  | some r => r.inFlight
  | none => 0

/-- Whether a run is to be restarted. -/
def isDue (h : Host α) (c : Context) (limit : Nat) : Bool :=
  let length := (h.history c.run).length
  let suggested := match h.surroundings.suggests with
    | some b => b
    | none => h.surroundings.suggestAfter > 0 && length > h.surroundings.suggestAfter
  suggested || (limit > 0 && length > limit)

/-! ## Changes -/

/-- Changes the log of a run. -/
def modifyRun (h : Host α) (run : Nat) (f : RunLog → RunLog) : Host α :=
  { h with runs := h.runs.modify run f }

/-- Writes to the history of a run. -/
def record (h : Host α) (c : Context) (e : HistoryEvent) : Host α :=
  h.modifyRun c.run fun r => { r with history := r.history.record e }

/-- Writes several events. -/
def recordAll (h : Host α) (c : Context) (es : List HistoryEvent) : Host α :=
  es.foldl (fun h e => h.record c e) h

/-- Tells observers. -/
def tell (h : Host α) (n : Notice) : Host α := { h with journal := (h.now, n) :: h.journal }

/-- Replaces a strand. -/
def put (h : Host α) (s : Strand α) : Host α :=
  { h with strands := h.strands.map fun t => if t.id = s.id then s else t }

/-- Removes a strand. -/
def remove (h : Host α) (id : Nat) : Host α :=
  { h with strands := h.strands.filter (·.id != id), queue := h.queue.filter (· != id) }

/-- Lets the strand at the head of the queue go on. -/
def goOn (h : Host α) (s : Strand α) (code : Dialogue (Ending α)) : Host α :=
  h.put { s with phase := .ready code }

/-- Lets a strand wait, behind the others that wait. -/
def wait (h : Host α) (s : Strand α) (p : Phase α) : Host α :=
  { h.remove s.id with strands := h.strands.filter (·.id != s.id) ++ [{ s with phase := p }] }

/-- Wakes a strand that waits, behind the others that can run. -/
def wake (h : Host α) (s : Strand α) (code : Dialogue (Ending α)) : Host α :=
  { h.put { s with phase := .ready code } with queue := h.queue ++ [s.id] }

/-- Adds a strand that can run, behind the others. -/
def spawn (h : Host α) (s : Strand α) : Host α :=
  { h with strands := h.strands ++ [s], queue := h.queue ++ [s.id] }

/-! ## Cancelling -/

/-- How a waiting strand goes on when its context is cancelled. -/
def interrupted (p : Phase α) : Option (Context × Dialogue (Ending α)) :=
  match p with
  | .calling c _ task _ next => some (c, next (.error (.cancelled task)))
  | .pausing c _ next => some (c, next false)
  | .settling c _ next => some (c, next (.error (.cancelled "condition")))
  | .listening c _ slots next =>
    let missing := (slots.find? fun e => e.2.isNone).map Prod.fst
    some (c, next (.error (.cancelled ("signal:" ++ missing.getD ""))))
  | .ready _ | .delayed .. | .joining _ => none

/-- Wakes a strand if its context is cancelled. -/
def interrupt (h : Host α) (s : Strand α) : Host α :=
  match interrupted s.phase with
  | some (c, code) => if h.isCancelled c then h.wake s code else h
  | none => h

/-- Whether a way comes before another one, branch by branch. -/
def pathLe : List Nat → List Nat → Bool
  | [], _ => true
  | _ :: _, [] => false
  | a :: as, b :: bs => if a = b then pathLe as bs else a < b

/-- The strands, those of other jobs before those of the main job; in each of the two parts they are in
the order in which they began to wait. -/
def inOrder (h : Host α) : List (Strand α) :=
  let (main, others) := h.strands.partition (·.job == mainJob)
  others ++ main

/-- The strands, those of other jobs before those of the main job; in each of the two parts a branch
comes after the branches that were started after it. -/
def latestFirst (h : Host α) : List (Strand α) :=
  h.inOrder.mergeSort fun a b =>
    if a.job = b.job then pathLe b.path a.path else a.job != mainJob

/-- Cancels a scope and everything inside it. -/
def cancel (h : Host α) (scope : Nat) : Host α :=
  let h := { h with cancelled := scope :: h.cancelled }
  let h := { h with heartbeats := h.heartbeats.filter fun b => !h.isCancelled b.context }
  h.latestFirst.foldl interrupt h

/-! ## Signals and queries -/

/-- What a strand that waits for signals takes from the board: the context it waits in, the names of
what it takes, and how it goes on. -/
def receive (b : Board) : Phase α → Option (Context × List String × Board × Phase α)
  | .listening c .all slots next =>
    let (slots, taken, b) := b.fill slots
    match Board.filled? slots with
    | some received => some (c, taken, b, .ready (next (.ok received)))
    | none => some (c, taken, b, .listening c .all slots next)
  | .listening c mode slots next =>
    match b.takeFirst? (slots.map Prod.fst) with
    | some (received, b) => some (c, [received.1], b, .ready (next (.ok [received])))
    | none => some (c, [], b, .listening c mode slots next)
  | _ => none

/-- Lets a strand take what it waits for. -/
def feed (h : Host α) (s : Strand α) : Host α :=
  match receive h.board s.phase with
  | none => h
  | some (c, taken, b, p) =>
    let h := { h with board := b }.recordAll c (taken.map .signalReceived)
    match p with
    | .ready code => h.wake s code
    | p => h.put { s with phase := p }

/-- The time between two looks at whether detached graphs are finished. -/
def lookAgain : Nat := 25

/-- Looks whether the detached graphs that a strand waits for are finished. -/
def look (h : Host α) (s : Strand α) : Host α :=
  match s.phase with
  | .settling c _ next =>
    if h.inFlight c.run = 0 then h.wake s (next (.ok ()))
    else h.put { s with phase := .settling c (h.now + lookAgain) next }
  | _ => h

/-- Tells every strand that waits for detached graphs to look. -/
def lookAll (h : Host α) : Host α := h.inOrder.foldl look h

/-- Delivers a signal. -/
def deliver (h : Host α) (name : String) (payload : Json) : Host α :=
  let h := { h with board := h.board.deliver name payload }
  (h.inOrder.foldl feed h).lookAll

end Host

end TaskGraph
