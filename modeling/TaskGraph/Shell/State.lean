import TaskGraph.Configuration.Basic
import TaskGraph.Host.Files
import TaskGraph.Shell.Syntax
import TaskGraph.Text.Bytes

/-!
# The state of a shell

Variables and positional parameters, functions, the streams and where they lead, and whether the shell
goes on. The shell keeps what is written to its two streams, and to files for as long as it runs.
-/

set_option autoImplicit false

namespace TaskGraph.Shell

open Text (Bytes bytes)

/-- How a program ended: its code, unless a signal ended it, and what it wrote. -/
structure Finished where
  code : Option Nat
  output : Bytes
  errors : Bytes
  /-- How long it slept, in milliseconds. -/
  elapsed : Nat
  deriving Repr, DecidableEq

/-- Where a stream leads. -/
inductive Sink where
  | output
  | errors
  | nowhere
  | file (path : String)
  deriving Repr, DecidableEq

/-- Whether a shell goes on with the next command. -/
inductive Control where
  | running
  | leaving
  | killed
  | returning
  /-- Leaves so many loops. -/
  | breaking (loops : Nat)
  /-- Goes on with the next turn of a loop, after leaving those inside it. -/
  | continuing (loops : Nat)
  deriving Repr, DecidableEq

/-- The state of a shell. -/
structure State where
  files : Files
  name : String
  line : Nat
  arguments : List String
  vars : Variables
  exported : List String
  functions : List (String × Script)
  status : Nat
  control : Control
  /-- Whether a failing command ends the script. -/
  strict : Bool
  /-- Whether the outcome of the current command is being looked at. -/
  tested : Bool
  directory : String
  sinks : List (Nat × Sink)
  input : Bytes
  output : Bytes
  errors : Bytes
  written : List (String × Bytes)
  elapsed : Nat

namespace State

/-- A shell that is about to run, in a directory and with the variables of its process. -/
def start (files : Files) (directory name : String) (arguments : List String) (vars : Variables)
    (input : Bytes) : State where
  files := files
  name := name
  line := 1
  arguments := arguments
  vars := vars
  exported := vars.map Prod.fst
  functions := []
  status := 0
  control := .running
  strict := false
  tested := false
  directory := directory
  sinks := [(1, .output), (2, .errors)]
  input := input
  output := []
  errors := []
  written := []
  elapsed := 0

/-- How the shell ended. -/
def finished (s : State) : Finished :=
  ⟨if s.control = .killed then none else some s.status, s.output, s.errors, s.elapsed⟩

/-- Whether the next command is run. -/
def goesOn (s : State) : Bool := s.control = .running

/-- Sets the status of the last command. -/
def withStatus (s : State) (status : Nat) : State := { s with status := status }

/-- Ends the shell. -/
def leave (s : State) (status : Nat) : State := { s with status := status % 256, control := .leaving }

/-! ## Streams -/

/-- Writes to a stream. -/
def emit (s : State) (stream : Nat) (b : Bytes) : State :=
  match s.sinks.lookup stream with
  | some .output => { s with output := s.output ++ b }
  | some .errors => { s with errors := s.errors ++ b }
  | some (.file path) =>
    let earlier := (s.written.lookup path).getD []
    { s with written := (path, earlier ++ b) :: s.written.filter (·.1 != path) }
  | some .nowhere | none => s

/-- Complains on the stream of errors, with the name of the shell and the line in front. -/
def complain (s : State) (message : String) : State :=
  s.emit 2 (bytes (s.name ++ ": " ++ Decimal.natText s.line ++ ": " ++ message ++ "\n"))

/-- The path of a file from the working directory of the whole. -/
def path (s : State) (p : String) : String :=
  if p.startsWith "/" || s.directory = "." then p else s.directory ++ "/" ++ p

/-- What stands at a path. -/
def entry (s : State) (p : String) : Entry :=
  match s.written.lookup (s.path p) with
  | some b => .file (Text.ofBytes b)
  | none => s.files (s.path p)

/-- Leads a stream elsewhere. -/
def redirect (s : State) (stream : Nat) (sink : Sink) : State :=
  { s with sinks := (stream, sink) :: s.sinks.filter (·.1 != stream) }

/-- The streams of another state. -/
def withStreamsOf (s t : State) : State := { s with sinks := t.sinks, input := t.input }

/-- What a shell inside another one leaves behind. -/
def backTo (inner outer : State) : State :=
  { outer with
    status := inner.status
    control := if inner.control = .killed then .killed else outer.control
    output := inner.output
    errors := inner.errors
    written := inner.written
    elapsed := inner.elapsed }

/-! ## Variables -/

/-- The number that stands for the process. -/
def processId : String := "4242"

/-- The value of a parameter, if it is set. -/
def parameter? (s : State) (name : String) : Option String :=
  match name with
  | "?" => some (Decimal.natText s.status)
  | "#" => some (Decimal.natText s.arguments.length)
  | "$" => some processId
  | "0" => some s.name
  | "@" | "*" => if s.arguments.isEmpty then none else some (" ".intercalate s.arguments)
  | "-" => some (if s.strict then "e" else "")
  | "!" => none
  | "PWD" => some ((s.vars.lookup "PWD").getD s.directory)
  | _ =>
    if name.toList.all Char.isDigit then s.arguments[(name.toNat?.getD 0) - 1]?
    else s.vars.lookup name

/-- The value of a parameter, an unset one being empty. -/
def parameter (s : State) (name : String) : String := (s.parameter? name).getD ""

/-- Sets a variable. -/
def set (s : State) (name value : String) : State :=
  { s with vars := (name, value) :: s.vars.filter (·.1 != name) }

/-- Removes a variable. -/
def unset (s : State) (name : String) : State :=
  { s with vars := s.vars.filter (·.1 != name), exported := s.exported.filter (· != name) }

/-- Hands a variable to the programs that are started. -/
def exportVariable (s : State) (name : String) : State := { s with exported := name :: s.exported }

/-- The variables that programs see. -/
def environment (s : State) : Variables := s.vars.filter fun v => s.exported.contains v.1

end State

end TaskGraph.Shell
