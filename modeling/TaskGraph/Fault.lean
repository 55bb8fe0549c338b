import TaskGraph.Decimal.Layout
import TaskGraph.Scope

/-!
# Faults

Every way in which reading, compiling or running a document can fail, with its code, its text, whether
a call that fails with it may be tried again, and the view of it that a catch list sees. Two faults are
no failures: `continueAsNew` asks for a restart, and `cancelled` says that a scope was stopped.
-/

set_option autoImplicit false

namespace TaskGraph

/-- A place in a value, as a pointer, and what is wrong there. -/
structure Violation where
  path : String
  message : String
  deriving Repr, DecidableEq

/-- A cause of failure. -/
inductive Fault where
  | unreadableDocument (details : String)
  | documentNotFound (path : String)
  | invalidDocument (reason : String)
  | unreadableYaml (details : String)
  | unsupportedTask (task tag : String)
  | duplicateTask (name scope : String)
  | missingFlowTarget (task target : String)
  | duplicateDefault (task : String)
  | duplicateGraph (name : String)
  | unknownGraph (task name : String)
  | invalidTask (task reason : String)
  | expressionFailed (expression reason : String)
  | guardNotBoolean (guard found : String)
  | invalidDuration (value reason : String)
  | inputValidation (task : String) (violations : List Violation)
  | invalidSchema (reason : String)
  | callFailed (call reason : String) (retryable : Bool)
  | httpStatus (endpoint : String) (status : Nat)
  | processExit (command : String) (code : Option Int) (stdout stderr : String)
  | handlerNotFound (name : String)
  | callTimeout (call : String) (timeoutMs : Nat)
  | graphNotFound (name : String)
  | processSpawn (command reason : String)
  | flowTargetNotFound (target : String)
  | notIterable (task found : String)
  | raised (errorType : String) (status : Nat) (title detail : String)
  | continueAsNew (entryPoint : String) (input : Json) (state : Scope)
  | continuationFailed (reason : String)
  | handlersNotFinished (entryPoint marker reason : String)
  | cancelled (scope : String)
  | runTimeout (workflow : String) (timeoutMs : Nat)
  | invalidConfig (reason : String)
  | io (reason : String)
  | unreadableJson (details : String)
  deriving Repr, DecidableEq, Inhabited

namespace Fault

/-- A text in single quotes. -/
def quoted (s : String) : String := "'" ++ s ++ "'"

/-- The code of a fault. -/
def code : Fault → String
  | unreadableDocument .. => "BRAID-001"
  | documentNotFound .. => "BRAID-002"
  | invalidDocument .. => "BRAID-003"
  | unreadableYaml .. => "BRAID-004"
  | unsupportedTask .. => "BRAID-010"
  | duplicateTask .. => "BRAID-011"
  | missingFlowTarget .. => "BRAID-012"
  | duplicateDefault .. => "BRAID-013"
  | duplicateGraph .. => "BRAID-014"
  | unknownGraph .. => "BRAID-015"
  | invalidTask .. => "BRAID-016"
  | expressionFailed .. => "BRAID-020"
  | guardNotBoolean .. => "BRAID-021"
  | invalidDuration .. => "BRAID-022"
  | inputValidation .. => "BRAID-030"
  | invalidSchema .. => "BRAID-031"
  | callFailed .. => "BRAID-040"
  | httpStatus .. => "BRAID-041"
  | processExit .. => "BRAID-042"
  | handlerNotFound .. => "BRAID-043"
  | callTimeout .. => "BRAID-044"
  | graphNotFound .. => "BRAID-045"
  | processSpawn .. => "BRAID-046"
  | flowTargetNotFound .. => "BRAID-050"
  | notIterable .. => "BRAID-051"
  | raised .. => "BRAID-070"
  | continueAsNew .. => "BRAID-080"
  | continuationFailed .. => "BRAID-081"
  | handlersNotFinished .. => "BRAID-082"
  | cancelled .. => "BRAID-090"
  | runTimeout .. => "BRAID-091"
  | invalidConfig .. => "BRAID-100"
  | io .. => "BRAID-101"
  | unreadableJson .. => "BRAID-102"

/-- The text of a list of violations: each behind its path, counted when there are several. -/
def violationsText : List Violation → String
  | [] => "no violations"
  | [v] => "[" ++ v.path ++ "] " ++ v.message
  | vs => Decimal.natText vs.length ++ " violations: " ++
      "; ".intercalate (vs.map fun v => "[" ++ v.path ++ "] " ++ v.message)

/-- The text of a fault after its code. -/
def detail : Fault → String
  | unreadableDocument details => "Failed to parse workflow: " ++ details
  | documentNotFound path => "Workflow file not found: " ++ path
  | invalidDocument reason => "Invalid workflow document: " ++ reason
  | unreadableYaml details => "YAML parse error: " ++ details
  | unsupportedTask task tag => "Task " ++ quoted task ++ " uses unsupported variant " ++ quoted tag
  | duplicateTask name scope => "Duplicate task name " ++ quoted name ++ " in " ++ quoted scope
  | missingFlowTarget task target =>
    "Task " ++ quoted task ++ " flows to unknown target " ++ quoted target
  | duplicateDefault task => "Switch " ++ quoted task ++ " has more than one default case"
  | duplicateGraph name => "Sub-graph " ++ quoted name ++ " is defined twice"
  | unknownGraph task name =>
    "Task " ++ quoted task ++ " references unknown sub-graph " ++ quoted name
  | invalidTask task reason => "Task " ++ quoted task ++ " is misconfigured: " ++ reason
  | expressionFailed expression reason =>
    "Failed to evaluate " ++ quoted expression ++ ": " ++ reason
  | guardNotBoolean guard found =>
    "Guard " ++ quoted guard ++ " must evaluate to a boolean, got " ++ found
  | invalidDuration value reason => "Invalid duration " ++ quoted value ++ ": " ++ reason
  | inputValidation task violations =>
    "Input of " ++ quoted task ++ " failed validation: " ++ violationsText violations
  | invalidSchema reason => "Invalid JSON schema: " ++ reason
  | callFailed call reason _ => "Call " ++ quoted call ++ " failed: " ++ reason
  | httpStatus endpoint status => "HTTP " ++ Decimal.natText status ++ " from " ++ endpoint
  | processExit command code _ stderr =>
    "Command " ++ quoted command ++ " exited with " ++
      (code.map Decimal.intText).getD "signal" ++ ": " ++ stderr
  | handlerNotFound name => "No handler registered for " ++ quoted name
  | callTimeout call ms =>
    "Call " ++ quoted call ++ " timed out after " ++ Decimal.natText ms ++ "ms"
  | graphNotFound name => "Sub-graph " ++ quoted name ++ " is not registered"
  | processSpawn command reason => "Failed to spawn " ++ quoted command ++ ": " ++ reason
  | flowTargetNotFound target => "Next target specified but not found: " ++ target
  | notIterable task found => "Task " ++ quoted task ++ " cannot iterate over " ++ found
  | raised _ _ title detail => title ++ ": " ++ detail
  | continueAsNew entryPoint _ _ => "Continue-as-new requested for " ++ quoted entryPoint
  | continuationFailed reason => "Continuation failed: " ++ reason
  | handlersNotFinished entryPoint marker reason =>
    "Handlers of " ++ quoted entryPoint ++ " did not finish before restarting at " ++
      quoted marker ++ ": " ++ reason
  | cancelled scope => "Scope " ++ quoted scope ++ " was cancelled"
  | runTimeout workflow ms =>
    "Workflow " ++ quoted workflow ++ " exceeded its timeout of " ++ Decimal.natText ms ++ "ms"
  | invalidConfig reason => "Configuration error: " ++ reason
  | io reason => "IO error: " ++ reason
  | unreadableJson details => "JSON error: " ++ details

/-- The text of a fault: its code in brackets and what happened. -/
def message (f : Fault) : String := "[" ++ f.code ++ "] " ++ f.detail

/-- Whether a call that failed so may be tried again. -/
def retryable : Fault → Bool
  | callFailed _ _ retryable => retryable
  | httpStatus _ status => status ≥ 500
  | processExit .. | callTimeout .. | io .. => true
  | _ => false

/-- Whether the fault says that a scope was stopped. -/
def isCancelled : Fault → Bool
  | cancelled _ => true
  | _ => false

/-- Whether the fault asks for a restart or gives one up. -/
def isContinuation : Fault → Bool
  | continueAsNew .. | handlersNotFinished .. => true
  | _ => false

/-- Whether the fault belongs to compiling, before any task runs. -/
def isBuildFault : Fault → Bool
  | unsupportedTask .. | duplicateTask .. | missingFlowTarget .. | duplicateDefault ..
  | duplicateGraph .. | unknownGraph .. | invalidTask .. => true
  | _ => false

/-- The heading of a fault in a catch list. -/
def title : Fault → String
  | expressionFailed .. | guardNotBoolean .. => "Expression error"
  | inputValidation .. => "Validation error"
  | callFailed .. | processExit .. | handlerNotFound .. | callTimeout .. | processSpawn .. =>
    "Call failed"
  | flowTargetNotFound .. | notIterable .. => "Flow error"
  | _ => "Runtime error"

/-- What a catch list sees of a fault. -/
def toJson : Fault → Json
  | raised errorType status title detail =>
    .obj [("detail", .str detail), ("status", .nat status), ("title", .str title),
      ("type", .str errorType)]
  | httpStatus endpoint status =>
    .obj [("detail", .str (httpStatus endpoint status).message), ("status", .nat status),
      ("title", .str "HTTP call failed"), ("type", .str "BRAID-041")]
  | f =>
    .obj [("detail", .str f.message), ("status", .nat 500), ("title", .str f.title),
      ("type", .str f.code)]

/-- Advice on mending a fault. -/
def fix? : Fault → Option String
  | unreadableDocument .. | unreadableYaml .. => some "Check YAML syntax: indentation and quoting"
  | documentNotFound .. => some "Check the file path exists"
  | unsupportedTask .. =>
    some "Use one of: do, for, fork, switch, try, call, run, wait, raise, listen, set"
  | duplicateTask .. => some "Task names must be unique within their task list"
  | missingFlowTarget .. =>
    some "'then' must be continue, end, exit or the name of a sibling task"
  | duplicateDefault .. => some "Only one switch case may omit 'when'"
  | unknownGraph .. | graphNotFound .. =>
    some "Switch and run.workflow targets must name a 'do' task or the workflow itself"
  | expressionFailed .. => some "Check the expression syntax and that referenced fields exist"
  | guardNotBoolean .. => some "Guards must evaluate to true/false, \"true\" or \"1\""
  | invalidDuration .. =>
    some "Use ISO 8601 (PT30S, P1DT2H) or \x7bhours, minutes, seconds\x7d"
  | inputValidation .. => some "Check the input against the task schema"
  | handlerNotFound .. => some "Register the handler on the substrate before running the workflow"
  | callTimeout .. => some "Increase timeout.after on the task"
  | flowTargetNotFound .. => some "Flow targets only jump forward within the same task list"
  | notIterable .. =>
    some "'for.in' must evaluate to an object, an array or a non-negative integer"
  | invalidConfig .. => some "Check ~/.config/braid/config.toml and BRAID_* environment variables"
  | _ => none

end Fault

end TaskGraph
