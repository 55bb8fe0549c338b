import TaskGraph.Configuration.Basic
import TaskGraph.Execution.Request
import TaskGraph.Json.Printer

/-!
# Commands

What a process invocation starts: a program with arguments and variables. Arguments and variables are
texts; a value that is no text is written as compact JSON. A script is a file in a directory of its own,
which is the working directory.
-/

set_option autoImplicit false

namespace TaskGraph

/-- A program to start. -/
structure Command where
  program : String
  arguments : List String
  vars : Variables
  /-- The name and the text of the file that stands in the working directory. -/
  script : Option (String × String)
  deriving Repr, DecidableEq

namespace Command

/-- The variables that an object describes. -/
def variablesOf (m : Members) : Variables := m.map fun (k, v) => (k, v.plain)

/-- The options that set the variables of a container. -/
def containerOptions (m : Members) : List String := m.flatMap fun (k, v) => ["-e", k ++ "=" ++ v.plain]

/-- The command of a process invocation. The file of a script is its first argument. -/
def ofInvocation? : Invocation → Option Command
  | .shell p => some ⟨p.command, p.arguments.map Json.plain, variablesOf p.environment, none⟩
  | .script p =>
    let file := "script." ++ p.language.extension
    some ⟨p.language.interpreter, file :: p.arguments.map Json.plain, variablesOf p.environment,
      some (file, p.code)⟩
  | .container p =>
    some ⟨"docker", ["run", "--rm"] ++ containerOptions p.environment ++ [p.image] ++
      p.command.toList ++ p.arguments.map Json.plain, [], none⟩
  | .activity _ | .http _ | .grpc _ => none

end Command

end TaskGraph
