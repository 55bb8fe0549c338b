import TaskGraph.Document.Payload
import TaskGraph.Json.Depth

/-!
# Tasks

A task list is a list of objects with one member each: the name of a task and its body. A body has the
fields that every task may have and one key that says what the task does. The keys are tried in a fixed
order, since a loop and a `try` also carry a `do`; a body with none of them is a task of its first
unknown key.
-/

set_option autoImplicit false

namespace TaskGraph

open Decode

/-- What runs after a task. -/
inductive Flow where
  /-- The next task of the list. -/
  | next
  /-- Nothing more: the list has succeeded. -/
  | stop
  /-- The task of that name further down the list. -/
  | target (name : String)
  deriving Repr, DecidableEq

namespace Flow

/-- Reads the word of a directive. -/
def ofString (s : String) : Flow :=
  if s = "continue" then next else if s = "end" ∨ s = "exit" then stop else target s

/-- The word of a directive. -/
def text : Flow → String
  | next => "continue"
  | stop => "end"
  | target name => name

/-- Reads a directive. -/
def decode : Decoder Flow := fun v => (string v).map ofString

end Flow

/-- The fields that every task may have. -/
structure TaskBase where
  guard : Option String
  next : Option Flow
  /-- The schema of the input; the outer level says whether there is an input section. -/
  input : Option (Option Json)
  /-- The structure that becomes the output. -/
  exported : Option Json
  timeout : Option DurationSpec
  metadata : Members
  deriving Repr, DecidableEq

namespace TaskBase

/-- Reads a guard; a number or a truth value stands for its text. -/
def guard? : Decoder (Option String)
  | .null => .ok none
  | .str s => .ok (some s)
  | .bool b => .ok (some (if b then "true" else "false"))
  | .num n => .ok (some n.render)
  | v => .error ("guard must be a string or boolean, got " ++ v.kind)

/-- Reads an input section. -/
def inputSpec : Decoder (Option Json) :=
  record "InputSpec" (.maybe "schema" value)

/-- Reads an export section. -/
def exportSpec : Decoder Json := record "ExportSpec" (.needed "as" value)

/-- Reads a timeout section. -/
def timeoutSpec : Decoder DurationSpec :=
  record "TimeoutSpec" (.needed "after" DurationSpec.decode)

/-- The fields of every task. -/
def fields : Fields TaskBase :=
  Fields.none TaskBase.mk
    |>.and (.withDefault "if" guard? none)
    |>.and (.maybe "then" Flow.decode)
    |>.and (.maybe "input" inputSpec)
    |>.and (.maybe "export" exportSpec)
    |>.and (.maybe "timeout" timeoutSpec)
    |>.and (.withDefault "metadata" members [])

/-- The names of the fields. -/
def keys : List String := ["if", "then", "input", "export", "timeout", "metadata"]

/-- The schema of the input, if one is declared. -/
def schema? (b : TaskBase) : Option Json := b.input.join

end TaskBase

/-- A named body with the fields of every task. -/
structure Item (α : Type) where
  name : String
  base : TaskBase
  action : α
  deriving Repr

/-- A case of a switch. -/
structure SwitchCase where
  name : String
  condition : Option String
  next : Option Flow
  deriving Repr, DecidableEq

/-- What a loop goes over and how it names what it finds. -/
structure LoopSpec where
  each : Option String
  source : Json
  at_ : Option String
  deriving Repr, DecidableEq

namespace LoopSpec

/-- The name of the item. -/
def itemName (l : LoopSpec) : String := l.each.getD "item"

/-- The name of the index or key. -/
def indexName (l : LoopSpec) : String := l.at_.getD "index"

/-- The fields of a loop. -/
def fields : Fields LoopSpec :=
  Fields.none LoopSpec.mk
    |>.and (.maybe "each" string)
    |>.and (.needed "in" value)
    |>.and (.maybe "at" string)

/-- Reads a loop. -/
def decode : Decoder LoopSpec := record "ForSpec" fields

end LoopSpec

/-- What a task does. -/
inductive Action where
  | block (tasks : List (Item Action))
  | loop (spec : LoopSpec) (condition : Option String) (body : List (Item Action))
  | fork (compete : Bool) (branches : List (Item Action))
  | switch (cases : List SwitchCase)
  | attempt (body : List (Item Action)) (binding : Option String) (handler : List (Item Action))
  | call (call : Call)
  | run (run : ProcessRun)
  | wait (duration : DurationSpec)
  | raise (error : RaiseError)
  | listen (listener : Listener)
  | assign (value : Json)
  /-- A task of a kind that is not built in. -/
  | custom (tag : String) (body : Json)

/-- A task. -/
abbrev Task := Item Action

/-- A task list. -/
abbrev TaskList := List Task

namespace Action

/-- The key that stands for a kind of task. -/
def tag : Action → String
  | block _ => "do"
  | loop .. => "for"
  | fork .. => "fork"
  | switch _ => "switch"
  | attempt .. => "try"
  | call _ => "call"
  | run _ => "run"
  | wait _ => "wait"
  | raise _ => "raise"
  | listen _ => "listen"
  | assign _ => "set"
  | custom tag _ => tag

end Action

namespace Task

/-! ## Reading -/

/-- The keys of the kinds of task, in the order in which they are looked for. -/
def actionKeys : List String :=
  ["for", "fork", "switch", "try", "call", "run", "wait", "raise", "listen", "set", "do"]

/-- The keys that only accompany the key of a kind. -/
def companionKeys : List String := ["while", "catch", "with"]

/-- The only member of an object. -/
def singleEntry (m : Members) : Except String (String × Json) :=
  match m with
  | [e] => .ok e
  | m => .error ("expected exactly one named entry per list item, found [" ++
      ", ".intercalate (Members.keys m) ++ "]")

/-- A message about the body of a task. -/
def inTask (name : String) {α : Type} (r : Except String α) : Except String α :=
  r.mapError fun e => "task '" ++ name ++ "': " ++ e

/-- A message about one key of a task. -/
def inKey (name key : String) {α : Type} (r : Except String α) : Except String α :=
  r.mapError fun e => "task '" ++ name ++ "' (" ++ key ++ "): " ++ e

/-- Reads the cases of a switch. -/
def switchCase (m : Members) : Except String SwitchCase := do
  let (name, body) ← singleEntry m
  let fields : Fields (Option String × Option Flow) :=
    Fields.none Prod.mk |>.and (.maybe "when" string) |>.and (.maybe "then" Flow.decode)
  let (condition, next) ← (record "SwitchCaseBody" fields body).mapError
    fun e => "switch case '" ++ name ++ "': " ++ e
  pure ⟨name, condition, next⟩

/-- Reads the call of a task; a kind that is not built in makes a task of its own kind. -/
def callAction (name kind : String) (arguments : Json) : Except String Action :=
  match kind with
  | "activity" => (inTask name (ActivityCall.decode arguments)).map fun c => .call (.activity c)
  | "http" => (inTask name (HttpCall.decode arguments)).map fun c => .call (.http c)
  | "grpc" => (inTask name (GrpcCall.decode arguments)).map fun c => .call (.grpc c)
  | kind => .ok (.custom ("call." ++ kind) arguments)

/-- The fields of a loop task, given a reader of task lists. -/
def loopFields (tasks : Decoder TaskList) : Fields Action :=
  Fields.none (fun spec condition body => Action.loop spec condition body)
    |>.and (.needed "for" LoopSpec.decode)
    |>.and (.maybe "while" string)
    |>.and (.needed "do" tasks)

/-- The fields of a fork, given a reader of task lists. -/
def forkFields (tasks : Decoder TaskList) : Fields Action :=
  Fields.none Action.fork
    |>.and (.withDefault "compete" boolean false)
    |>.and (.needed "branches" tasks)

/-- The fields of a catch section, given a reader of task lists. -/
def catchFields (tasks : Decoder TaskList) : Fields (Option String × TaskList) :=
  Fields.none Prod.mk
    |>.and (.maybe "as" string)
    |>.and (.withDefault "do" tasks [])

/-- The fields of a try task, given a reader of task lists. -/
def attemptFields (tasks : Decoder TaskList) : Fields Action :=
  Fields.none (fun body handler => Action.attempt body handler.1 handler.2)
    |>.and (.needed "try" tasks)
    |>.and (.withDefault "catch" (record "CatchSpec" (catchFields tasks)) (none, []))

/-- Reads what a task does, given a reader of task lists and the members that are no base fields. -/
def readAction (tasks : Decoder TaskList) (name : String) (body : Members) : Except String Action :=
  match actionKeys.find? (Members.contains body) with
  | none =>
    match body.find? fun e => !companionKeys.contains e.1 with
    | some (tag, payload) => .ok (.custom tag payload)
    | none => .error ("task '" ++ name ++ "' does not define an action")
  | some key =>
    let payload := (Members.get? body key).getD .null
    match key with
    | "for" => inTask name (record "ForTask" (loopFields tasks) (.obj body))
    | "try" => inTask name (record "TryTask" (attemptFields tasks) (.obj body))
    | "fork" => inKey name key (record "ForkSpec" (forkFields tasks) payload)
    | "switch" => do
      let entries ← inKey name key (sequence members payload)
      let cases ← entries.mapM switchCase
      pure (.switch cases)
    | "call" => do
      let kind ← inKey name key (string payload)
      callAction name kind ((Members.get? body "with").getD (.obj []))
    | "run" => (inKey name key (ProcessRun.decode payload)).map .run
    | "wait" => (inKey name key (DurationSpec.decode payload)).map .wait
    | "raise" => (inKey name key (RaiseError.decodeTask payload)).map .raise
    | "listen" => (inKey name key (Listener.decode payload)).map .listen
    | "set" => .ok (.assign payload)
    | _ => (inKey name key (tasks payload)).map .block

/-- Reads a task, given a reader of task lists. -/
def readItem (tasks : Decoder TaskList) : Decoder Task := fun v => do
  let m ← members v
  let (name, body) ← singleEntry m
  match body with
  | .obj body =>
    let base ← inTask name
      (namedRecord TaskBase.fields (body.filter fun e => TaskBase.keys.contains e.1))
    let rest := body.filter fun e => !TaskBase.keys.contains e.1
    let action ← readAction tasks name rest
    pure ⟨name, base, action⟩
  | body => throw ("task '" ++ name ++ "' must be a map, got " ++ body.kind)

/-- Reads a task list whose tasks are nested less deep than the bound. -/
def listWithin : Nat → Decoder TaskList
  | 0 => fun _ => .error "recursion limit exceeded"
  | depth + 1 => sequence (readItem (listWithin depth))

end Task

/-- Reads a task list. The nesting of the value bounds the nesting of the tasks. -/
def TaskList.decode : Decoder TaskList := fun v => Task.listWithin (v.depth + 1) v

end TaskGraph
