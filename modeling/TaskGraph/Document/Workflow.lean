import TaskGraph.Document.Task

/-!
# Workflow documents

A document has a name, perhaps a schema for its input and a limit on its running time, and a task list.
A document whose name is blank or whose list is empty is refused.
-/

set_option autoImplicit false

namespace TaskGraph

open Decode

/-- What a document says about itself. -/
structure DocumentInfo where
  name : String
  version : Option String
  space : Option String
  summary : Option String
  deriving Repr, DecidableEq

/-- A workflow document. -/
structure Workflow where
  info : DocumentInfo
  input : Option (Option Json)
  timeout : Option DurationSpec
  tasks : TaskList

namespace DocumentInfo

/-- The fields of a document's description. -/
def fields : Fields DocumentInfo :=
  Fields.none DocumentInfo.mk
    |>.and (.needed "name" string)
    |>.and (.maybe "version" string)
    |>.and (.maybe "namespace" string)
    |>.and (.maybe "summary" string)

end DocumentInfo

namespace Workflow

/-- The fields of a document. -/
def fields : Fields Workflow :=
  Fields.none Workflow.mk
    |>.and (.needed "document" (record "DocumentMeta" DocumentInfo.fields))
    |>.and (.maybe "input" TaskBase.inputSpec)
    |>.and (.maybe "timeout" TaskBase.timeoutSpec)
    |>.and (.needed "do" TaskList.decode)

/-- The name of a document. -/
def name (w : Workflow) : String := w.info.name

/-- The schema of the input, if one is declared. -/
def schema? (w : Workflow) : Option Json := w.input.join

/-- The limit on the running time, if there is one. -/
def limit (w : Workflow) : Except Fault (Option Duration) :=
  match w.timeout with
  | none => .ok none
  | some d => d.toDuration.map some

/-- Refuses a document that nothing can be made of. -/
def validate (w : Workflow) : Except Fault Unit :=
  if Text.allBlank w.name then .error (.invalidDocument "document.name must not be empty")
  else if w.tasks.isEmpty then .error (.invalidDocument ("workflow '" ++ w.name ++ "' has no tasks"))
  else .ok ()

/-- Reads a document and validates it. -/
def ofJson (v : Json) : Except Fault Workflow := do
  let w ← (record "Workflow" fields v).mapError .unreadableDocument
  w.validate
  pure w

end Workflow

end TaskGraph
