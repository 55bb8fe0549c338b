import TaskGraph.CommandLine.Arguments
import TaskGraph.Configuration.EnvFile
import TaskGraph.Configuration.File
import TaskGraph.Document.Source
import TaskGraph.Host.Machine
import TaskGraph.Host.Run
import TaskGraph.Json.Reader
import TaskGraph.Program.Compiling

/-!
# The command line

What the commands write and whether they succeed, as a function of the arguments, the variables and the
files around them. A workflow is run on this machine: processes are its programs, and no activity or
remote procedure is at hand.
-/

set_option autoImplicit false

namespace TaskGraph

namespace Workflow

/-- Reads a document from a path. -/
def ofPath (files : Files) (path : String) : Except Fault Workflow :=
  let e := files path
  if !e.isPresent then .error (.documentNotFound path)
  else (e.read.mapError Fault.io).bind ofYaml

end Workflow

namespace CommandLine

/-- What is around a command. -/
structure Setup where
  vars : Variables
  files : Files
  /-- The path of the file of settings. -/
  settings : String

/-- The path of the file of settings: in the directory that a variable names by a path from the root, or
below the home directory. -/
def settingsPath (vars : Variables) : String :=
  let below (directory : String) : String := directory ++ "/braid/config.toml"
  match (vars.lookup "XDG_CONFIG_HOME").filter (·.startsWith "/"), vars.lookup "HOME" with
  | some directory, _ => below directory
  | none, some home => if home = "" then below "." else below (home ++ "/.config")
  | none, none => below "."

/-- What a command has done: what it wrote, the fault it ended in, and the file it wrote. -/
structure Result where
  output : String
  fault : Option Fault
  written : Option (String × History)

/-- The code that a command ends with. -/
def Result.exit (r : Result) : Nat := if r.fault.isNone then 0 else 1

/-- What a command writes about its fault, with advice where there is some. -/
def Result.errors (r : Result) : String :=
  match r.fault with
  | none => ""
  | some f => "Error: " ++ f.message ++ "\n" ++
      (match f.fix? with
        | some advice => "  Fix: " ++ advice ++ "\n"
        | none => "")

/-- The variables of the process after the file of variables. -/
def Setup.environment (s : Setup) : Variables :=
  match s.files ".env" with
  | .file text => EnvFile.load s.vars text
  | _ => s.vars

/-- The settings of the file, overridden by variables. -/
def Setup.configuration (s : Setup) : Except Fault Configuration :=
  (Configuration.ofEntry (s.files s.settings)).map fun c => c.overriddenBy s.environment

/-- Reads an input written in JSON. -/
def readJson (text : String) : Except Fault Json :=
  match Json.parse? text with
  | some v => .ok v
  | none => .error (.unreadableJson "malformed value")

/-- A signal that is given as a name, or as a name and a payload; a payload that is no JSON is a text. -/
def readSignal (raw : String) : Except Fault (String × Json) :=
  let (name, payload) := splitAtEquals raw.toList
  let value : Json := match payload with
    | none => .null
    | some cs => (Json.parse? (String.ofList cs)).getD (.str (String.ofList cs))
  let name := Text.trim (String.ofList name)
  if name = "" then .error (.invalidConfig ("invalid --signal '" ++ raw ++ "': missing name"))
  else .ok (name, value)

/-- Everything a run needs. -/
structure Prepared where
  configuration : Configuration
  workflow : Workflow
  program : Program
  input : Json
  signals : List (String × Json)

/-- Reads what a run needs. -/
def prepare (s : Setup) (r : RunRequest) : Except Fault Prepared := do
  let c ← s.configuration
  let c := match r.maxHistory with
    | some n => { c with runtime := { c.runtime with maxHistory := n } }
    | none => c
  let input ← match r.input, r.inputFile with
    | some raw, _ => readJson raw
    | none, some path => ((s.files path).read.mapError Fault.io).bind readJson
    | none, none => pure (.obj [])
  let w ← Workflow.ofPath s.files r.file
  let p ← Program.compile .standard (.ofConfiguration c) w
  let signals ← r.signals.mapM readSignal
  pure ⟨c, w, p, input, signals⟩

/-- Runs a program on this machine, to its result or to the end of its time. -/
def execute (files : Files) (vars : Variables) (p : Prepared) (limit : Option Duration) :
    Host Host.RunResult :=
  let c := p.configuration
  let code : Dialogue Host.RunResult := (Host.programRun p.program p.input (c.environment vars)).run
  let h := Host.start (.ofConfiguration p.program c) (.machine files vars .silent c.runtime.suggestAfter)
    .passThrough code
  ((h.withSignals (p.signals.map fun (n, v) => (none, n, v))).withLimit p.workflow.name limit).conduct

/-- Seconds with one place, in parentheses. -/
def elapsed (ms : Nat) : String :=
  let tenths := (ms + 50) / 100
  "(" ++ Decimal.natText (tenths / 10) ++ "." ++ Decimal.natText (tenths % 10) ++ "s)"

/-- The number of calls that a history says were completed. -/
def completedCalls (h : History) : Nat :=
  (h.events.toList.filter fun
    | .callCompleted .. => true
    | _ => false).length

/-- The directory that a file is to stand in. -/
def parent (path : String) : String :=
  match path.toList.reverse.dropWhile (· != '/') with
  | [] => "."
  | ['/'] => "/"
  | _ :: rest => String.ofList rest.reverse

/-- The files that a command line asks for, and those that stand around them. -/
def Asked.paths : Asked → List String
  | .run r => r.file :: r.inputFile.toList ++ r.history.toList ++ r.history.toList.map parent
  | .validate file => [file]
  | .version | .help => []

/-- Why a file cannot be written, if it cannot. -/
def unwritable (files : Files) (path : String) : Option String :=
  match files path with
  | .file _ => none
  | .directory => some "Is a directory (os error 21)"
  | .blocked => some "Not a directory (os error 20)"
  | .missing => match files (parent path) with
    | .directory => none
    | .missing => some "No such file or directory (os error 2)"
    | .file _ | .blocked => some "Not a directory (os error 20)"

/-- What is written about a run that is over. -/
def report (s : Setup) (r : RunRequest) (p : Prepared) (h : Host Host.RunResult) : Result :=
  let time := elapsed h.finished
  match h.result with
  | none => ⟨"", none, none⟩
  | some (.error f) =>
    ⟨"  ✗ " ++ p.workflow.name ++ " " ++ time ++ "\n      Error: " ++ f.message ++ "\n", some f, none⟩
  | some (.ok o) =>
    let history := h.history o.run
    let line := "  ✓ " ++ p.workflow.name ++ " " ++ Decimal.natText (completedCalls history) ++
      " calls, " ++ Decimal.natText o.restarts ++ " continuations " ++ time ++ "\n"
    match r.history.bind (unwritable s.files) with
    | some reason => ⟨line, some (.io reason), none⟩
    | none =>
      let output := if o.output = .null then "" else "Output:\n" ++ o.output.pretty ++ "\n"
      ⟨line ++ output, none, r.history.map fun path => (path, history)⟩

/-- Runs a workflow. -/
def run (s : Setup) (r : RunRequest) : Result :=
  match prepare s r with
  | .error f => ⟨"", some f, none⟩
  | .ok p =>
    let heading := "→ Running workflow " ++ p.workflow.name ++ " (" ++
      Decimal.natText p.program.graphs.length ++ " sub-graphs)...\n\n"
    match p.workflow.limit with
    | .error f => ⟨heading, some f, none⟩
    | .ok limit =>
      let result := report s r p (execute s.files s.environment p limit)
      { result with output := heading ++ result.output }

/-- Compiles a workflow and tells what it consists of. -/
def validate (s : Setup) (file : String) : Result :=
  let compiled := do
    let c ← s.configuration
    let w ← Workflow.ofPath s.files file
    let p ← Program.compile .standard (.ofConfiguration c) w
    pure (w, p)
  match compiled with
  | .error f => ⟨"", some f, none⟩
  | .ok (w, p) =>
    let names := (Graph.sortedNames p.graphs).map fun n =>
      "    - " ++ n ++ (if n = p.root then " (entry point)" else "") ++ "\n"
    ⟨"✓ Workflow '" ++ w.name ++ "' is valid\n  Tasks: " ++ Decimal.natText w.tasks.length ++
      "\n  Sub-graphs: " ++ Decimal.natText p.graphs.length ++ "\n" ++ String.join names, none, none⟩

/-- How the command line is used. -/
def usage : String :=
  "Usage: braid <COMMAND>\n\nCommands:\n  run       Run a workflow file\n" ++
    "  validate  Parse and compile a workflow file\n"

/-- The name and the version of the program. -/
def versionLine : String := "braid 0.1.0\n"

/-- Does what a command line asks for. -/
def perform (s : Setup) : Asked → Result
  | .run r => run s r
  | .validate file => validate s file
  | .version => ⟨versionLine, none, none⟩
  | .help => ⟨usage, none, none⟩

end CommandLine

end TaskGraph
