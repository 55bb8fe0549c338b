import TaskGraph.Document.Duration

/-!
# Configuration

Settings of the interpreter and of the calls it makes. Every setting has a default; variables of the
environment override what was read from a file.
-/

set_option autoImplicit false

namespace TaskGraph

/-- Variables of a process environment. -/
abbrev Variables := List (String × String)

/-- Settings of the interpreter. -/
structure RuntimeSettings where
  /-- The prefix of the variables that documents see, without the underscore after it. -/
  envPrefix : String
  /-- The length beyond which a history is left for a new run; zero sets no limit. -/
  maxHistory : Nat
  /-- The length beyond which a host suggests a new run; zero for never. -/
  suggestAfter : Nat
  validateInput : Bool
  deriving Repr, DecidableEq

/-- Settings of calls. -/
structure CallSettings where
  timeoutSecs : Nat
  maxAttempts : Nat
  initialMs : Nat
  maxMs : Nat
  backoff : Float
  deriving Repr, DecidableEq

/-- All settings. -/
structure Configuration where
  runtime : RuntimeSettings
  calls : CallSettings
  deriving Repr, DecidableEq

open Decode

namespace RuntimeSettings

/-- The defaults. -/
def standard : RuntimeSettings := ⟨"BRAID", 0, 10000, true⟩

/-- The fields of the settings. -/
def fields : Fields RuntimeSettings :=
  Fields.none RuntimeSettings.mk
    |>.and (.withDefault "env_prefix" string standard.envPrefix)
    |>.and (.withDefault "max_history_length" size standard.maxHistory)
    |>.and (.withDefault "suggest_continuation_after" size standard.suggestAfter)
    |>.and (.withDefault "validate_input" boolean standard.validateInput)

/-- Reads the settings. -/
def decode : Decoder RuntimeSettings := record "RuntimeSettings" fields

/-- The settings as a value. -/
def toJson (s : RuntimeSettings) : Json :=
  .obj [("env_prefix", .str s.envPrefix), ("max_history_length", .nat s.maxHistory),
    ("suggest_continuation_after", .nat s.suggestAfter), ("validate_input", .bool s.validateInput)]

end RuntimeSettings

namespace CallSettings

/-- The defaults. -/
def standard : CallSettings := ⟨60, 3, 100, 10000, 2.0⟩

/-- The fields of the settings. -/
def fields : Fields CallSettings :=
  Fields.none CallSettings.mk
    |>.and (.withDefault "timeout_secs" (natural 64) standard.timeoutSecs)
    |>.and (.withDefault "max_attempts" (natural 32) standard.maxAttempts)
    |>.and (.withDefault "initial_interval_ms" (natural 64) standard.initialMs)
    |>.and (.withDefault "max_interval_ms" (natural 64) standard.maxMs)
    |>.and (.withDefault "backoff_coefficient" number standard.backoff)

/-- Reads the settings. -/
def decode : Decoder CallSettings := record "CallSettings" fields

/-- The settings as a value. -/
def toJson (s : CallSettings) : Json :=
  .obj [("backoff_coefficient", .ofFloat s.backoff), ("initial_interval_ms", .nat s.initialMs),
    ("max_attempts", .nat s.maxAttempts), ("max_interval_ms", .nat s.maxMs),
    ("timeout_secs", .nat s.timeoutSecs)]

/-- The time that an attempt of a call has when its task sets none. -/
def timeout (s : CallSettings) : Duration := ⟨s.timeoutSecs, 0⟩

end CallSettings

namespace Configuration

/-- The defaults. -/
def standard : Configuration := ⟨.standard, .standard⟩

/-- The fields of a configuration. -/
def fields : Fields Configuration :=
  Fields.none Configuration.mk
    |>.and (.withDefault "runtime" RuntimeSettings.decode .standard)
    |>.and (.withDefault "calls" CallSettings.decode .standard)

/-- Reads a configuration. -/
def decode : Decoder Configuration := record "BraidConfig" fields

/-- A configuration as a value. -/
def toJson (c : Configuration) : Json :=
  .obj [("calls", c.calls.toJson), ("runtime", c.runtime.toJson)]

/-- A natural number of 64 bits as a variable gives it: decimal digits, perhaps after a plus sign. -/
def count? (text : String) : Option Nat :=
  let digits := match text.toList with
    | '+' :: cs => cs
    | cs => cs
  if digits.isEmpty || !digits.all Char.isDigit then none
  else
    let n := digits.foldl (fun n c => 10 * n + (c.toNat - '0'.toNat)) 0
    if n < Nat.pow 2 64 then some n else none

/-- Applies the variables that override settings. A number that cannot be read overrides nothing. -/
def overriddenBy (c : Configuration) (vars : Variables) : Configuration :=
  let envPrefix := match vars.lookup "BRAID_ENV_PREFIX" with
    | some p => if p = "" then c.runtime.envPrefix else p
    | none => c.runtime.envPrefix
  let maxHistory := ((vars.lookup "BRAID_MAX_HISTORY_LENGTH").bind count?).getD c.runtime.maxHistory
  let timeoutSecs := ((vars.lookup "BRAID_CALL_TIMEOUT_SECS").bind count?).getD c.calls.timeoutSecs
  { runtime := { c.runtime with envPrefix := envPrefix, maxHistory := maxHistory }
    calls := { c.calls with timeoutSecs := timeoutSecs } }

/-- The rest of a text behind a beginning, if it has that beginning. -/
def stripped? : List Char → List Char → Option (List Char)
  | [], cs => some cs
  | p :: ps, c :: cs => if p = c then stripped? ps cs else none
  | _ :: _, [] => none

/-- What documents see of the environment: the variables with the prefix, without it. -/
def environment (c : Configuration) (vars : Variables) : Members :=
  Members.ofList <| vars.filterMap fun (name, v) =>
    match stripped? (c.runtime.envPrefix ++ "_").toList name.toList with
    | some (r :: rest) => some (String.ofList (r :: rest), .str v)
    | _ => none

end Configuration

end TaskGraph
