import TaskGraph.Decode

/-!
# Histories

The history of a run is an append-only list of events, numbered from zero. Its length is what restarts
are decided by. An event is written as an object with its kind under `type`.
-/

set_option autoImplicit false

namespace TaskGraph

/-- Something that happened in a run. Times and identifiers of runs are carried along. -/
inductive HistoryEvent where
  | runStarted (entryPoint runId : String) (marker : Option String)
  | runCompleted (output : Json) (totalMs : Nat)
  | runFailed (error : String)
  | continuedAsNew (entryPoint : String) (marker : Option String)
  | callScheduled (call : String) (attempt : Nat)
  | callCompleted (call : String) (durationMs : Nat)
  | callFailed (call error : String) (retryable : Bool)
  | graphStarted (name : String) (detached : Bool)
  | graphCompleted (name : String) (durationMs : Nat)
  | timerStarted (durationMs : Nat)
  | timerFired (durationMs : Nat)
  | signalReceived (name : String)
  | queryRegistered (name : String)
  | attributesUpserted (attributes : Json)
  | heartbeat (intervalMs : Nat)
  deriving Repr, DecidableEq

namespace HistoryEvent

/-- The call of a call event. -/
def call? : HistoryEvent → Option String
  | callScheduled call _ | callCompleted call _ | callFailed call _ _ => some call
  | _ => none

/-- Whether the event is about the run as a whole. -/
def isRunEvent : HistoryEvent → Bool
  | runStarted .. | runCompleted .. | runFailed .. | continuedAsNew .. => true
  | _ => false

/-- The words for the kinds of event. -/
def names : List String :=
  ["run_started", "run_completed", "run_failed", "continued_as_new", "call_scheduled",
    "call_completed", "call_failed", "sub_graph_started", "sub_graph_completed", "timer_started",
    "timer_fired", "signal_received", "query_registered", "search_attributes_upserted", "heartbeat"]

/-- The word for a kind and the fields of the event, in key order without the word. -/
def parts : HistoryEvent → String × List (String × Json)
  | runStarted e r m =>
    ("run_started", [("entry_point", .str e), ("resume_marker", Json.optStr m), ("run_id", .str r)])
  | runCompleted o t => ("run_completed", [("output", o), ("total_duration_ms", .nat t)])
  | runFailed e => ("run_failed", [("error", .str e)])
  | continuedAsNew e m =>
    ("continued_as_new", [("entry_point", .str e), ("resume_marker", Json.optStr m)])
  | callScheduled c a => ("call_scheduled", [("attempt", .nat a), ("call", .str c)])
  | callCompleted c d => ("call_completed", [("call", .str c), ("duration_ms", .nat d)])
  | callFailed c e r =>
    ("call_failed", [("call", .str c), ("error", .str e), ("retryable", .bool r)])
  | graphStarted n d => ("sub_graph_started", [("detached", .bool d), ("name", .str n)])
  | graphCompleted n d => ("sub_graph_completed", [("duration_ms", .nat d), ("name", .str n)])
  | timerStarted d => ("timer_started", [("duration_ms", .nat d)])
  | timerFired d => ("timer_fired", [("duration_ms", .nat d)])
  | signalReceived n => ("signal_received", [("name", .str n)])
  | queryRegistered n => ("query_registered", [("name", .str n)])
  | attributesUpserted a => ("search_attributes_upserted", [("attributes", a)])
  | heartbeat i => ("heartbeat", [("interval_ms", .nat i)])

/-- An event as a value. -/
def toJson (k : HistoryEvent) : Json :=
  Json.object (("type", .str k.parts.1) :: k.parts.2)

open Decode

/-- A field that may be left out of an object, but not of an array. -/
def optionalText (key : String) : Fields (Option String) :=
  .field key (optional string) (some none) none

/-- A duration field. -/
def millis (key : String) : Fields Nat := .needed key (natural 64)

/-- The name of a kind in messages and its fields. -/
def variant : String → Option (String × Fields HistoryEvent)
  | "run_started" => some ("RunStarted", Fields.none runStarted
      |>.and (.needed "entry_point" string) |>.and (.needed "run_id" string)
      |>.and (optionalText "resume_marker"))
  | "run_completed" => some ("RunCompleted", Fields.none runCompleted
      |>.and (.needed "output" value) |>.and (millis "total_duration_ms"))
  | "run_failed" => some ("RunFailed", Fields.none runFailed |>.and (.needed "error" string))
  | "continued_as_new" => some ("ContinuedAsNew", Fields.none continuedAsNew
      |>.and (.needed "entry_point" string) |>.and (optionalText "resume_marker"))
  | "call_scheduled" => some ("CallScheduled", Fields.none callScheduled
      |>.and (.needed "call" string) |>.and (.needed "attempt" (natural 32)))
  | "call_completed" => some ("CallCompleted", Fields.none callCompleted
      |>.and (.needed "call" string) |>.and (millis "duration_ms"))
  | "call_failed" => some ("CallFailed", Fields.none callFailed
      |>.and (.needed "call" string) |>.and (.needed "error" string)
      |>.and (.needed "retryable" boolean))
  | "sub_graph_started" => some ("SubGraphStarted", Fields.none graphStarted
      |>.and (.needed "name" string) |>.and (.needed "detached" boolean))
  | "sub_graph_completed" => some ("SubGraphCompleted", Fields.none graphCompleted
      |>.and (.needed "name" string) |>.and (millis "duration_ms"))
  | "timer_started" => some ("TimerStarted", Fields.none timerStarted |>.and (millis "duration_ms"))
  | "timer_fired" => some ("TimerFired", Fields.none timerFired |>.and (millis "duration_ms"))
  | "signal_received" => some ("SignalReceived", Fields.none signalReceived
      |>.and (.needed "name" string))
  | "query_registered" => some ("QueryRegistered", Fields.none queryRegistered
      |>.and (.needed "name" string))
  | "search_attributes_upserted" => some ("SearchAttributesUpserted",
      Fields.none attributesUpserted |>.and (.needed "attributes" value))
  | "heartbeat" => some ("Heartbeat", Fields.none heartbeat |>.and (millis "interval_ms"))
  | _ => none

/-- Reads the word for a kind and returns its fields. -/
def variantOf : Json → Except String (String × Fields HistoryEvent)
  | .str s => match variant s with
    | some v => .ok v
    | none => .error (unknownWord s names)
  | v => .error (wrongType v "variant identifier")

/-- Reads the fields of an event from the items of an array. -/
def ofItems (name : String) (fields : Fields HistoryEvent) (xs : List Json) :
    Except String HistoryEvent := do
  let count := Decimal.natText fields.count ++ (if fields.count = 1 then " element" else " elements")
  let (k, used, rest) ←
    fields.positional ("struct variant HistoryEventKind::" ++ name ++ " with " ++ count) 0 xs
  if rest.isEmpty then pure k
  else throw (tooMany xs.length used)

/-- Reads an event. -/
def decode : Decoder HistoryEvent
  | .obj m => match Members.get? m "type" with
    | none => .error "missing field `type`"
    | some word => do
      let (_, fields) ← variantOf word
      namedRecord fields (Members.erase m "type")
  | .arr (word :: xs) => do
    let (name, fields) ← variantOf word
    ofItems name fields xs
  | .arr [] => .error "missing field `type`"
  | v => .error (wrongType v "internally tagged enum HistoryEventKind")

end HistoryEvent

/-- The events of a run, latest last. -/
structure History where
  events : Array HistoryEvent
  deriving Repr, DecidableEq, Inhabited

namespace History

/-- A history without events. -/
def empty : History := ⟨#[]⟩

/-- Appends an event. -/
def record (h : History) (k : HistoryEvent) : History := ⟨h.events.push k⟩

/-- The number of events. -/
def length (h : History) : Nat := h.events.size

/-- The events with their numbers. -/
def numbered (h : History) : List (Nat × HistoryEvent) := h.events.toList.zipIdx.map fun (k, i) => (i, k)

/-- A history as a value. -/
def toJson (h : History) : Json :=
  .arr (h.numbered.map fun (i, k) => .obj [("id", .nat i), ("kind", k.toJson)])

/-- The events of one call, with their numbers. -/
def ofCall (h : History) (call : String) : List (Nat × HistoryEvent) :=
  h.numbered.filter fun (_, k) => k.call? == some call

/-- The number of events about the run as a whole. -/
def countRunEvents (h : History) : Nat := (h.events.toList.filter (·.isRunEvent)).length

end History

end TaskGraph
