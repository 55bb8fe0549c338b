import TaskGraph.Document.Duration
import TaskGraph.Text.Casing

/-!
# What tasks carry

The arguments of calls, processes, raised errors and listeners. Calls, processes and errors are written
back as values, their texts are evaluated, and the result is read again, so each of them has a reader
and a writer.
-/

set_option autoImplicit false

namespace TaskGraph

open Decode

/-! ## Calls -/

/-- A call of a registered activity. -/
structure ActivityCall where
  name : String
  arguments : List Json
  deriving Repr, DecidableEq

namespace ActivityCall

/-- The fields of an activity call. -/
def fields : Fields ActivityCall :=
  Fields.none ActivityCall.mk
    |>.and (.needed "name" string)
    |>.and (.withDefault "arguments" (sequence value) [])

/-- Reads an activity call. -/
def decode : Decoder ActivityCall := record "ActivityCall" fields

/-- An activity call as a value. -/
def toJson (c : ActivityCall) : Json :=
  .obj [("arguments", .arr c.arguments), ("name", .str c.name)]

end ActivityCall

/-- Where an HTTP call goes: an address, or an object that holds one. -/
inductive Endpoint where
  | uri (text : String)
  | object (uri : String)
  deriving Repr, DecidableEq

namespace Endpoint

/-- The address of an endpoint. -/
def address : Endpoint → String
  | uri s | object s => s

/-- Reads an endpoint. -/
def decode : Decoder Endpoint
  | .str s => .ok (.uri s)
  | .obj m => match Members.get? m "uri" with
    | some (.str s) => .ok (.object s)
    | _ => .error "data did not match any variant of untagged enum Endpoint"
  | _ => .error "data did not match any variant of untagged enum Endpoint"

/-- An endpoint as a value. -/
def toJson : Endpoint → Json
  | uri s => .str s
  | object s => .obj [("uri", .str s)]

end Endpoint

/-- What an HTTP call returns of a response. -/
inductive HttpOutput where
  /-- The body: as JSON if it is, else as text. -/
  | content
  /-- Status, headers and body. -/
  | response
  /-- The bytes of the body in base 64. -/
  | raw
  deriving Repr, DecidableEq

namespace HttpOutput

/-- The word for an output. -/
def name : HttpOutput → String
  | content => "content"
  | response => "response"
  | raw => "raw"

/-- Reads an output. -/
def decode : Decoder HttpOutput :=
  word [("content", content), ("response", response), ("raw", raw)] ["content", "response", "raw"]

end HttpOutput

/-- An HTTP call. -/
structure HttpCall where
  method : String
  endpoint : Endpoint
  headers : Members
  query : Members
  body : Option Json
  output : HttpOutput
  redirect : Bool
  deriving Repr, DecidableEq

namespace HttpCall

/-- The fields of an HTTP call. -/
def fields : Fields HttpCall :=
  Fields.none HttpCall.mk
    |>.and (.withDefault "method" string "GET")
    |>.and (.needed "endpoint" Endpoint.decode)
    |>.and (.withDefault "headers" members [])
    |>.and (.withDefault "query" members [])
    |>.and (.maybe "body" value)
    |>.and (.withDefault "output" HttpOutput.decode .content)
    |>.and (.withDefault "redirect" boolean false)

/-- Reads an HTTP call. -/
def decode : Decoder HttpCall := record "HttpCall" fields

/-- The method of a call, in capital letters. -/
def verb (c : HttpCall) : String := Text.upper c.method

/-- What histories call an HTTP call. -/
def identifier (c : HttpCall) : String := c.verb ++ " " ++ c.endpoint.address

/-- An HTTP call as a value; an absent body is left out. -/
def toJson (c : HttpCall) : Json :=
  .obj <| (match c.body with
      | some b => [("body", b)]
      | none => []) ++
    [("endpoint", c.endpoint.toJson), ("headers", .obj c.headers), ("method", .str c.method),
      ("output", .str c.output.name), ("query", .obj c.query), ("redirect", .bool c.redirect)]

end HttpCall

/-- The service of a remote procedure. -/
structure GrpcService where
  name : String
  host : Option String
  port : Option Nat
  deriving Repr, DecidableEq

namespace GrpcService

/-- The fields of a service. -/
def fields : Fields GrpcService :=
  Fields.none GrpcService.mk
    |>.and (.needed "name" string)
    |>.and (.maybe "host" string)
    |>.and (.maybe "port" (natural 16))

/-- Reads a service. -/
def decode : Decoder GrpcService := record "GrpcService" fields

/-- A service as a value. -/
def toJson (s : GrpcService) : Json :=
  .obj [("host", Json.optStr s.host), ("name", .str s.name),
    ("port", match s.port with
      | some p => .nat p
      | none => .null)]

end GrpcService

/-- A call of a remote procedure. -/
structure GrpcCall where
  service : GrpcService
  method : String
  arguments : Members
  deriving Repr, DecidableEq

namespace GrpcCall

/-- The fields of a remote call. -/
def fields : Fields GrpcCall :=
  Fields.none GrpcCall.mk
    |>.and (.needed "service" GrpcService.decode)
    |>.and (.needed "method" string)
    |>.and (.withDefault "arguments" members [])

/-- Reads a remote call. -/
def decode : Decoder GrpcCall := record "GrpcCall" fields

/-- A remote call as a value. -/
def toJson (c : GrpcCall) : Json :=
  .obj [("arguments", .obj c.arguments), ("method", .str c.method),
    ("service", c.service.toJson)]

end GrpcCall

/-- What a call task calls. -/
inductive Call where
  | activity (call : ActivityCall)
  | http (call : HttpCall)
  | grpc (call : GrpcCall)
  deriving Repr, DecidableEq

namespace Call

/-- The word for a kind of call. -/
def kind : Call → String
  | activity _ => "activity"
  | http _ => "http"
  | grpc _ => "grpc"

/-- The arguments of a call as a value. -/
def toJson : Call → Json
  | activity c => c.toJson
  | http c => c.toJson
  | grpc c => c.toJson

end Call

/-! ## Processes -/

/-- A command and its arguments. -/
structure ShellProcess where
  command : String
  arguments : List Json
  environment : Members
  deriving Repr, DecidableEq

namespace ShellProcess

/-- The fields of a command. -/
def fields : Fields ShellProcess :=
  Fields.none ShellProcess.mk
    |>.and (.needed "command" string)
    |>.and (.withDefault "arguments" (sequence value) [])
    |>.and (.withDefault "environment" members [])

/-- Reads a command. -/
def decode : Decoder ShellProcess := chosenRecord "ShellProcess" fields

/-- A command as a value. -/
def toJson (p : ShellProcess) : Json :=
  .obj [("arguments", .arr p.arguments), ("command", .str p.command),
    ("environment", .obj p.environment)]

end ShellProcess

/-- The language of a script. -/
inductive ScriptLanguage where
  | js
  | python
  deriving Repr, DecidableEq

namespace ScriptLanguage

/-- The word for a language. -/
def name : ScriptLanguage → String
  | js => "js"
  | python => "python"

/-- The command that runs a script. -/
def interpreter : ScriptLanguage → String
  | js => "node"
  | python => "python3"

/-- The ending of a script's file name. -/
def extension : ScriptLanguage → String
  | js => "js"
  | python => "py"

/-- Reads a language; an object that holds it may hold an empty object. -/
def decode : Decoder ScriptLanguage :=
  wordHolding [.null, .obj []] [("js", js), ("javascript", js), ("python", python)]
    ["javascript", "js", "python"]

end ScriptLanguage

/-- A script. -/
structure ScriptProcess where
  language : ScriptLanguage
  code : String
  arguments : List Json
  environment : Members
  deriving Repr, DecidableEq

namespace ScriptProcess

/-- The fields of a script. -/
def fields : Fields ScriptProcess :=
  Fields.none ScriptProcess.mk
    |>.and (.needed "language" ScriptLanguage.decode)
    |>.and (.needed "code" string)
    |>.and (.withDefault "arguments" (sequence value) [])
    |>.and (.withDefault "environment" members [])

/-- Reads a script. -/
def decode : Decoder ScriptProcess := chosenRecord "ScriptProcess" fields

/-- A script as a value. -/
def toJson (p : ScriptProcess) : Json :=
  .obj [("arguments", .arr p.arguments), ("code", .str p.code),
    ("environment", .obj p.environment), ("language", .str p.language.name)]

end ScriptProcess

/-- A container and the command to run in it. -/
structure ContainerProcess where
  image : String
  command : Option String
  arguments : List Json
  environment : Members
  deriving Repr, DecidableEq

namespace ContainerProcess

/-- The fields of a container. -/
def fields : Fields ContainerProcess :=
  Fields.none ContainerProcess.mk
    |>.and (.needed "image" string)
    |>.and (.maybe "command" string)
    |>.and (.withDefault "arguments" (sequence value) [])
    |>.and (.withDefault "environment" members [])

/-- Reads a container. -/
def decode : Decoder ContainerProcess := chosenRecord "ContainerProcess" fields

/-- A container as a value; an absent command is left out. -/
def toJson (p : ContainerProcess) : Json :=
  .obj <| [("arguments", .arr p.arguments)] ++
    (match p.command with
      | some c => [("command", .str c)]
      | none => []) ++
    [("environment", .obj p.environment), ("image", .str p.image)]

end ContainerProcess

/-- A graph of the same program and the input for it. -/
structure WorkflowProcess where
  name : String
  input : Option Json
  deriving Repr, DecidableEq

namespace WorkflowProcess

/-- The fields of a graph to run. -/
def fields : Fields WorkflowProcess :=
  Fields.none WorkflowProcess.mk
    |>.and (.needed "name" string)
    |>.and (.maybe "input" value)

/-- Reads a graph to run. -/
def decode : Decoder WorkflowProcess := chosenRecord "WorkflowProcess" fields

/-- A graph to run as a value; an absent input is left out. -/
def toJson (p : WorkflowProcess) : Json :=
  .obj <| (match p.input with
      | some v => [("input", v)]
      | none => []) ++ [("name", .str p.name)]

end WorkflowProcess

/-- What a run task runs. -/
inductive Process where
  | shell (process : ShellProcess)
  | script (process : ScriptProcess)
  | container (process : ContainerProcess)
  | workflow (process : WorkflowProcess)
  deriving Repr, DecidableEq

namespace Process

/-- The word for a kind of process. -/
def kind : Process → String
  | shell _ => "shell"
  | script _ => "script"
  | container _ => "container"
  | workflow _ => "workflow"

/-- The arguments of a process as a value. -/
def payload : Process → Json
  | shell p => p.toJson
  | script p => p.toJson
  | container p => p.toJson
  | workflow p => p.toJson

/-- Reads the process that is found first, in key order, among the members of an object. -/
def decode (m : Members) : Except String Process :=
  match m.find? fun e => ["shell", "script", "container", "workflow"].contains e.1 with
  | some ("shell", v) => (ShellProcess.decode v).map shell
  | some ("script", v) => (ScriptProcess.decode v).map script
  | some ("container", v) => (ContainerProcess.decode v).map container
  | some ("workflow", v) => (WorkflowProcess.decode v).map workflow
  | _ => .error "no variant of enum RunProcess found in flattened data"

end Process

/-- A process and whether its end is waited for. -/
structure ProcessRun where
  process : Process
  awaits : Bool
  deriving Repr, DecidableEq

namespace ProcessRun

/-- Reads a run: the flag first, then the process. -/
def decode : Decoder ProcessRun
  | .obj m => do
    let awaits ← match Members.get? m "await" with
      | none => pure true
      | some v => boolean v
    let process ← Process.decode m
    pure ⟨process, awaits⟩
  | v => .error (wrongType v "struct RunTask")

/-- A run as a value. -/
def toJson (r : ProcessRun) : Json :=
  Json.object [(r.process.kind, r.process.payload), ("await", .bool r.awaits)]

end ProcessRun

/-! ## Raised errors -/

/-- An error to raise. -/
structure RaiseError where
  errorType : String
  status : Nat
  title : String
  detail : String
  deriving Repr, DecidableEq

namespace RaiseError

/-- The fields of an error. -/
def fields : Fields RaiseError :=
  Fields.none RaiseError.mk
    |>.and (.needed "type" string)
    |>.and (.withDefault "status" (natural 16) 500)
    |>.and (.withDefault "title" string "")
    |>.and (.withDefault "detail" string "")

/-- Reads an error. -/
def decode : Decoder RaiseError := record "RaiseError" fields

/-- Reads the error of a raise task. -/
def decodeTask : Decoder RaiseError :=
  record "RaiseTask" (.needed "error" decode)

/-- An error as a value. -/
def toJson (e : RaiseError) : Json :=
  .obj [("detail", .str e.detail), ("status", .nat e.status), ("title", .str e.title),
    ("type", .str e.errorType)]

end RaiseError

/-! ## Listeners -/

/-- What kind of event is listened for. -/
inductive EventType where
  | signal
  | query
  | update
  deriving Repr, DecidableEq

namespace EventType

/-- The word for a kind of event. -/
def name : EventType → String
  | signal => "signal"
  | query => "query"
  | update => "update"

/-- Reads a kind of event. -/
def decode : Decoder EventType :=
  word [("signal", signal), ("query", query), ("update", update)] ["signal", "query", "update"]

end EventType

/-- An event, and the response to it if it is a query. -/
structure Event where
  id : String
  type : EventType
  data : Option Json
  deriving Repr, DecidableEq

namespace Event

/-- The fields of an event. -/
def fields : Fields Event :=
  Fields.none Event.mk
    |>.and (.needed "id" string)
    |>.and (.needed "type" EventType.decode)
    |>.and (.maybe "data" value)

/-- Reads an event inside its filter. -/
def decode : Decoder Event :=
  record "EventFilter" (.needed "with" (record "ListenEvent" fields))

end Event

/-- How many of the events are waited for. -/
inductive ListenMode where
  | one
  | any
  | all
  deriving Repr, DecidableEq

namespace ListenMode

/-- The word for a mode. -/
def name : ListenMode → String
  | one => "one"
  | any => "any"
  | all => "all"

end ListenMode

/-- The events of a listener as the document groups them. -/
structure Listener where
  one : Option Event
  any : List Event
  all : List Event
  deriving Repr, DecidableEq

namespace Listener

/-- The fields of a listener. -/
def fields : Fields Listener :=
  Fields.none Listener.mk
    |>.and (.maybe "one" Event.decode)
    |>.and (.withDefault "any" (sequence Event.decode) [])
    |>.and (.withDefault "all" (sequence Event.decode) [])

/-- Reads the listener of a listen task. -/
def decode : Decoder Listener :=
  record "ListenTask" (.needed "to" (record "ListenTo" fields))

/-- The mode, when exactly one group has events. -/
def mode? (l : Listener) : Option ListenMode :=
  match l.one.isSome, l.any.isEmpty, l.all.isEmpty with
  | true, true, true => some .one
  | false, false, true => some .any
  | false, true, false => some .all
  | _, _, _ => none

/-- All events of a listener. -/
def events (l : Listener) : List Event := l.one.toList ++ l.any ++ l.all

end Listener

end TaskGraph
