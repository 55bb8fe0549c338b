import TaskGraph.CommandLine.Basic

/-!
# The program

Looks at the arguments, the variables and the files that a command line asks for, lets the command line
say what is to be done, and writes it.
-/

set_option autoImplicit false

namespace TaskGraph.CommandLine

/-- What stands at a path. -/
def entryAt (path : String) : IO Entry := do
  try
    let content ← IO.FS.readBinFile path
    return .file (Text.ofBytes content.toList)
  catch
    | .inappropriateType none .. => return .directory
    | .inappropriateType .. => return .blocked
    | _ => return .missing

/-- What stands at some paths; the working directory is a directory. -/
def filesAt (paths : List String) : IO Files := do
  let found ← paths.mapM fun p => return (p, ← entryAt p)
  return fun path => (found.lookup path).getD (if path = "." then .directory else .missing)

/-- The variables of the process. -/
def processVariables : IO Variables := do
  try
    let content ← IO.FS.readBinFile "/proc/self/environ"
    let entries := (Text.ofBytes content.toList).split (· = Char.ofNat 0)
    return entries.toList.filterMap fun e => match splitAtEquals e.toString.toList with
      | (name, some value) => some (String.ofList name, String.ofList value)
      | (_, none) => none
  catch _ => return []

/-- Does what the arguments ask for, and returns the code to end with. -/
def runArguments (arguments : List String) : IO UInt32 := do
  match parse? arguments with
  | none =>
    IO.eprint usage
    return 2
  | some asked => do
    let vars ← processVariables
    let dotted ← filesAt [".env"]
    let settings := settingsPath (Setup.environment ⟨vars, dotted, ""⟩)
    let files ← filesAt (".env" :: settings :: asked.paths)
    let r := perform ⟨vars, files, settings⟩ asked
    IO.print r.output
    IO.eprint r.errors
    match r.written with
    | some (path, history) => IO.FS.writeFile path history.toJson.pretty
    | none => pure ()
    return r.exit.toUInt32

end TaskGraph.CommandLine

/-- Runs the command line. -/
def main (arguments : List String) : IO UInt32 := TaskGraph.CommandLine.runArguments arguments
