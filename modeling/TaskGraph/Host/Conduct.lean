import TaskGraph.Host.Basic

/-!
# Conducting dialogues

`perform` answers one request of a strand or lets the strand wait for the answer; `fire` lets the clock
jump to the next appointment. `advance` does one or the other, and `run` goes on until the result is
there or nothing is left to wait for.
-/

set_option autoImplicit false

namespace TaskGraph.Host

variable {α : Type}

/-! ## Requests -/

/-- Answers a request that evaluates something. -/
def evaluated {β : Type} (h : Host α) (s : Strand α) (c : Evaluating β)
    (next : Except Fault β → Dialogue (Ending α)) : Host α :=
  let (answer, e) := h.evaluator.run c
  { h with evaluator := e }.goOn s (next answer)

/-- Opens a fresh run with the cancellation scopes of a context. -/
def open_ (h : Host α) (c : Context) : Context × Host α :=
  (⟨h.runs.size, c.scopes⟩, { h with runs := h.runs.push ⟨.empty, 0⟩ })

/-- Starts the branches of a fork, each in a scope of its own. -/
def forkBranches (h : Host α) (s : Strand α) (c : Context) (input : Json) (scope : Scope) :
    Nat → List String → Host α × List Nat
  | _, [] => (h, [])
  | i, graph :: graphs =>
    let id := h.fresh
    let inner : Context := { c with scopes := (id + 1) :: c.scopes }
    let code := (Restart.runGraph h.setting.program inner graph input scope).run.map .branch
    let branch : Strand α := ⟨id, s.job, s.path ++ [i], some s.id, [], .ready code⟩
    let h := { h with fresh := id + 2 }.spawn branch
    let (h, scopes) := forkBranches h s c input scope (i + 1) graphs
    (h, (id + 1) :: scopes)

/-- Starts a graph that is not waited for, as a job of its own. -/
def detachGraph (h : Host α) (c : Context) (graph : String) (input : Json) (scope : Scope) : Host α :=
  let id := h.fresh
  let code := (Restart.graphOutput h.setting.program c graph input scope).run.map
    fun _ => .detached c.run
  let h := h.modifyRun c.run fun r => { r with inFlight := r.inFlight + 1 }
  { h with fresh := id + 1 }.spawn ⟨id, id, [], none, [], .ready code⟩

/-- Makes an attempt at a call. A handler that is at hand answers at once; otherwise it or the end of its
time is waited for. -/
def attempt (h : Host α) (s : Strand α) (c : Context) (r : CallRequest) (timeout : Duration)
    (next : Except Fault Json → Dialogue (Ending α)) : Host α :=
  let i := r.invocation
  if h.isCancelled c then h.goOn s (next (.error (.cancelled r.task)))
  else match h.surroundings.handler h.past.reverse i with
    | none => h.goOn s (next (.error (.handlerNotFound i.identifier)))
    | some reply =>
      let h := { h.tell (.handle i) with past := i :: h.past }
      let late : Except Fault Json := .error (.callTimeout i.identifier (timeout.toMillis % Nat.pow 2 64))
      let limit := timeout.ceilMillis
      let (after, result) := match reply.delay with
        | some d => if d ≤ limit then (d, reply.result) else (limit, late)
        | none => (limit, late)
      if after = 0 then h.goOn s (next result)
      else h.wait s (.calling c (some (h.now + after)) r.task result next)

/-- Lets the host's gateway answer a call, if it does. -/
def offered (h : Host α) (s : Strand α) (r : CallRequest)
    (next : Option (Except Fault Json) → Dialogue (Ending α)) : Host α :=
  let i := r.invocation
  match h.surroundings.gateway h.past.reverse i with
  | none => h.goOn s (next none)
  | some reply =>
    let h := { h with past := i :: h.past }
    match reply.delay with
    | some 0 => h.goOn s (next (some reply.result))
    | some d => h.wait s (.delayed (h.now + d) (next (some reply.result)))
    | none => h.wait s (.calling ⟨0, []⟩ none r.task reply.result fun v => next (some v))

/-- The longest time that can be waited: a wait of more than 63 bits of seconds ends after thirty
years. -/
def waitMillis (d : Duration) : Nat :=
  if d.secs ≥ Nat.pow 2 63 then 30 * 365 * 86400 * 1000 else d.ceilMillis

/-- Lets a strand wait for a time. -/
def sleep (h : Host α) (s : Strand α) (c : Context) (d : Duration)
    (next : Bool → Dialogue (Ending α)) : Host α :=
  if h.isCancelled c then h.goOn s (next false)
  else if d.isZero then h.goOn s (next true)
  else h.wait s (.pausing c (h.now + waitMillis d) next)

/-- Lets a strand wait until what its run has detached is finished. -/
def settle (h : Host α) (s : Strand α) (c : Context)
    (next : Except Fault Unit → Dialogue (Ending α)) : Host α :=
  if h.isCancelled c then h.goOn s (next (.error (.cancelled "condition")))
  else if h.inFlight c.run = 0 then h.goOn s (next (.ok ()))
  else h.wait s (.settling c (h.now + lookAgain) next)

/-- Waits for any of some signals. A payload that is there is taken even by a cancelled strand. -/
def listenAny (h : Host α) (s : Strand α) (c : Context) (mode : ListenMode)
    (next : Except Fault (List (String × Json)) → Dialogue (Ending α))
    (all : List String) : List String → Host α
  | [] => h.wait s (.listening c mode (all.map fun n => (n, none)) next)
  | n :: ns =>
    let h := h.tell (.await n)
    match h.board.take? n with
    | some (p, b) => ({ h with board := b }.record c (.signalReceived n)).goOn s (next (.ok [(n, p)]))
    | none =>
      if h.isCancelled c then h.goOn s (next (.error (.cancelled ("signal:" ++ n))))
      else listenAny h s c mode next all ns

/-- Waits for all of some signals. -/
def listenAll (h : Host α) (s : Strand α) (c : Context)
    (next : Except Fault (List (String × Json)) → Dialogue (Ending α)) (names : List String) : Host α :=
  let h := names.foldl (fun h n => h.tell (.await n)) h
  let (slots, taken, b) := h.board.fill (names.map fun n => (n, none))
  let h := { h with board := b }.recordAll c (taken.map .signalReceived)
  match Board.filled? slots, slots.find? fun e => e.2.isNone with
  | some received, _ => h.goOn s (next (.ok received))
  | none, missing =>
    if h.isCancelled c then
      h.goOn s (next (.error (.cancelled ("signal:" ++ (missing.map Prod.fst).getD ""))))
    else h.wait s (.listening c .all slots next)

/-- Cancels branches of the current fork, one after the other. -/
def stopBranches (h : Host α) (s : Strand α) (branches : List Nat) : Host α :=
  (branches.filterMap fun i => s.branches[i]?).foldl cancel h

/-- Starts a heartbeat, unless its context is cancelled. -/
def startHeartbeat (h : Host α) (c : Context) (interval : Duration) : Nat × Host α :=
  let id := h.fresh
  let h := { h with fresh := id + 1 }
  if h.isCancelled c then (id, h)
  else (id, { h with heartbeats := h.heartbeats ++ [⟨id, c, interval, h.now, 0⟩] })

/-- Answers a request of the strand whose turn it is, or lets the strand wait for the answer. -/
def perform (h : Host α) (s : Strand α) :
    (q : Request) → (q.Answer → Dialogue (Ending α)) → Host α
  | .evaluate text scope locals, next => h.evaluated s (Evaluation.evaluate text scope locals) next
  | .traverse value scope locals, next => h.evaluated s (Evaluation.traverse value scope locals) next
  | .check guard scope locals, next => h.evaluated s (Evaluation.check guard scope locals) next
  | .cancelled c, next => h.goOn s (next (h.isCancelled c))
  | .due c limit, next => h.goOn s (next (h.isDue c limit))
  | .settle c, next => h.settle s c next
  | .record c e, next => (h.record c e).goOn s (next ())
  | .tell n, next => (h.tell n).goOn s (next ())
  | .publish m, next => { h with attributes := h.attributes.insertAll m }.goOn s (next ())
  | .respond id response, next =>
    ({ h with board := h.board.respond id response }.lookAll).goOn s (next ())
  | .fresh c, next =>
    let (inner, h) := h.open_ c
    h.goOn s (next inner)
  | .enter c g input scope, next =>
    h.goOn s ((Sequence.runGraph h.setting c g input scope).run.bind next)
  | .detach c graph input scope, next => (h.detachGraph c graph input scope).goOn s (next ())
  | .fork c graphs input scope, next =>
    let (h, scopes) := h.forkBranches s c input scope 0 graphs
    h.goOn { s with branches := scopes } (next ())
  | .reply, next => h.wait s (.joining next)
  | .stop branches, next => (h.stopBranches s branches).goOn s (next ())
  | .offer r, next => h.offered s r next
  | .dispatch c r timeout, next => h.attempt s c r timeout next
  | .beat c interval, next =>
    let (id, h) := h.startHeartbeat c interval
    h.goOn s (next id)
  | .still id, next =>
    { h with heartbeats := h.heartbeats.filter (·.id != id) }.goOn s (next ())
  | .pause c d, next => h.sleep s c d next
  | .listen c .all names, next => h.listenAll s c next names
  | .listen c mode names, next => h.listenAny s c mode next names names

/-- Replies to the strand that forked a branch; it goes on before any other. -/
def replyTo (h : Host α) (parent branch : Nat) (reply : Except Fault Json) : Host α :=
  match h.strands.find? (·.id == parent) with
  | none => h
  | some p => match p.phase with
    | .joining next =>
      let h := h.put { p with phase := .ready (next (branch, reply)) }
      { h with queue := p.id :: h.queue }
    | _ => h

/-- Ends a strand. -/
def conclude (h : Host α) (s : Strand α) (e : Ending α) : Host α :=
  let h := h.remove s.id
  match e with
  | .result v => { h with result := some v, finished := h.now }
  | .branch reply => match s.parent with
    | some parent => h.replyTo parent (s.path.getLastD 0) reply
    | none => h
  | .detached run => h.modifyRun run fun r => { r with inFlight := r.inFlight - 1 }

/-! ## Turns -/

/-- The strand of a number. -/
def strand? (h : Host α) (id : Nat) : Option (Strand α) := h.strands.find? (·.id == id)

/-- The strands that can run. -/
def runnable (h : Host α) : List (Strand α) := h.queue.filterMap h.strand?

/-- The strand whose turn it is: one of the same job as before, else one of another job that is not the
main one, else the main one's. -/
def next? (h : Host α) : Option (Strand α) :=
  let rs := h.runnable
  (rs.find? fun s => some s.job == h.turn).or
    ((rs.find? fun s => s.job != mainJob).or rs.head?)

/-- Lets a strand take its next step. -/
def stepStrand (h : Host α) (s : Strand α) : Host α :=
  let h := { h with turn := some s.job, queue := s.id :: h.queue.filter (· != s.id) }
  match s.phase with
  | .ready (.done e) => h.conclude s e
  | .ready (.ask q next) => h.perform s q next
  | _ => h.remove s.id

/-! ## The clock -/

/-- The time of the next beat of a heartbeat. -/
def nextBeat (b : Heartbeat) : Nat :=
  b.start + (Duration.ofNanos (b.interval.toNanos * (b.beats + 1))).ceilMillis

/-- The time at which a waiting strand is due. -/
def due? (s : Strand α) : Option Nat :=
  match s.phase with
  | .delayed due _ | .pausing _ due _ | .settling _ due _ => some due
  | .calling _ due _ _ _ => due
  | _ => none

/-- What the clock can jump to. -/
inductive Appointment (α : Type) where
  | strand (s : Strand α)
  | beat (b : Heartbeat)
  | occurrence (o : Occurrence)
  | deadline (value : α)

/-- All appointments with their times; those of strands come first. -/
def appointments (h : Host α) : List (Nat × Appointment α) :=
  (h.strands.filterMap fun s => (due? s).map fun t => (t, .strand s)) ++
    h.heartbeats.map (fun b => (nextBeat b, .beat b)) ++
    h.agenda.map (fun e => (e.1, .occurrence e.2)) ++
    (h.deadline.toList.map fun e => (e.1, .deadline e.2))

/-- The earliest of some appointments; of those at one time, the first. -/
def earliest : List (Nat × Appointment α) → Option (Nat × Appointment α)
  | [] => none
  | a :: as => match earliest as with
    | none => some a
    | some b => if a.1 ≤ b.1 then some a else some b

/-- Lets a strand go on whose time has come. -/
def arrive (h : Host α) (s : Strand α) : Host α :=
  let h := { h with turn := some mainJob }
  match s.phase with
  | .delayed _ code => h.wake s code
  | .pausing _ _ next => h.wake s (next true)
  | .calling _ _ _ result next => h.wake s (next result)
  | .settling .. => h.look s
  | _ => h

/-- Gives the main job up: its strands are gone, everything is cancelled, and the result is there. -/
def giveUp (h : Host α) (value : α) : Host α :=
  let main := (h.strands.filter (·.job == mainJob)).map Strand.id
  let h := main.foldl remove h
  let h := h.cancel rootScope
  { h with result := some value, deadline := none, finished := h.now }

/-- What happens at an appointment. -/
def keep (h : Host α) : Appointment α → Host α
  | .strand s => h.arrive s
  | .beat b =>
    let h := h.record b.context (.heartbeat (b.interval.toMillis % Nat.pow 2 64))
    { h with heartbeats := h.heartbeats.map fun a =>
        if a.id = b.id then { a with beats := a.beats + 1 } else a }
  | .occurrence (.signal name payload) => { h with turn := none }.deliver name payload
  | .occurrence .cancel => { h with turn := none }.cancel rootScope
  | .deadline value => h.giveUp value

/-- Takes an occurrence that has come off the agenda. -/
def strike (h : Host α) (t : Nat) : Appointment α → Host α
  | .occurrence o => { h with agenda := h.agenda.erase (t, o) }
  | _ => h

/-- Lets the clock jump to the next appointment, if there is one and it is not beyond the horizon. -/
def fire (h : Host α) (horizon : Option Nat) : Option (Host α) :=
  match earliest h.appointments with
  | none => none
  | some (t, a) =>
    if horizon.any (· < t) then none
    else some (({ h with now := max h.now t }.strike t a).keep a)

/-- One step, if there is one to take. -/
def advance (h : Host α) (horizon : Option Nat) : Option (Host α) :=
  match h.next? with
  | some s => some (h.stepStrand s)
  | none => h.fire horizon

/-- Goes on until the result is there, nothing is left to wait for, or the fuel is used up. -/
def run : Nat → Host α → Host α
  | 0, h => h
  | fuel + 1, h =>
    if h.result.isSome then h
    else match h.advance none with
      | some h => run fuel h
      | none => h

/-- Goes on beyond the result until the horizon. -/
def linger (horizon : Nat) : Nat → Host α → Host α
  | 0, h => h
  | fuel + 1, h =>
    match h.advance (some horizon) with
    | some h => linger horizon fuel h
    | none => h

/-- Fuel for a run that is not expected to go on for ever. -/
def plenty : Nat := Nat.pow 10 12

/-- Conducts to the result. -/
def conduct (h : Host α) : Host α := run plenty h

/-- Conducts what is left in the background for a number of milliseconds; nothing of it happens if that
number is zero. -/
def lingering (h : Host α) (ms : Nat) : Host α :=
  if ms = 0 then h else linger (h.now + ms) plenty { h with deadline := none }

end TaskGraph.Host
