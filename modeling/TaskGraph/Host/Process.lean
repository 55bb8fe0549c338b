import TaskGraph.Host.Basic
import TaskGraph.Host.Command
import TaskGraph.Shell.Run
import TaskGraph.Text.Blank

/-!
# Processes

A command is run to its end. What it writes, without the blanks around it, is the result, unless it
ends with another code than zero.
-/

set_option autoImplicit false

namespace TaskGraph

namespace Shell.Finished

/-- What a finished program has written, without the blanks around it. -/
def text (b : Text.Bytes) : String := Text.trim (Text.ofBytes b)

/-- The result of a command that has ended. -/
def result (f : Shell.Finished) (command : String) : Except Fault Json :=
  if f.code = some 0 then .ok (.str (text f.output))
  else .error (.processExit command (f.code.map Int.ofNat) (text f.output) (text f.errors))

end Shell.Finished

namespace Command

/-- Why a program cannot be started that is not known. -/
def unstartable (files : Files) (program : String) : String :=
  if !program.toList.contains '/' then "No such file or directory (os error 2)"
  else match files program with
    | .missing => "No such file or directory (os error 2)"
    | .blocked => "Not a directory (os error 20)"
    | .file _ | .directory => "Permission denied (os error 13)"

/-- Runs a command in a directory, with the variables of the process behind its own ones. -/
def start (files : Files) (directory : String) (vars : Variables) (c : Command) : Reply :=
  let refused (reason : String) : Reply := ⟨some 0, .error (.processSpawn c.program reason)⟩
  let own := c.vars
  let all := own ++ vars.filter fun v => (own.lookup v.1).isNone
  let texts := c.program :: c.arguments ++ own.flatMap fun v => [v.1, v.2]
  if texts.any fun t => t.toList.contains (Char.ofNat 0) then refused "nul byte found in provided data"
  else match files directory with
    | .missing => refused "No such file or directory (os error 2)"
    | .file _ | .blocked => refused "Not a directory (os error 20)"
    | .directory => match Shell.start? files directory c.program c.arguments all with
      | none => refused (unstartable files c.program)
      | some none => ⟨none, .ok .null⟩
      | some (some f) => ⟨some f.elapsed, f.result c.program⟩

end Command

end TaskGraph
