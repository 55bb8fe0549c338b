import TaskGraph.Configuration.Basic
import TaskGraph.Host.Files
import TaskGraph.Toml.Reader

/-!
# Configuration files

A configuration is written in TOML. Without a file the defaults hold; a file that is there must be
readable and well formed.
-/

set_option autoImplicit false

namespace TaskGraph.Configuration

/-- A list of settings without the items behind the last setting. -/
def shortened (count : Nat) : Json → Json
  | .arr xs => .arr (xs.take count)
  | v => v

/-- Reads a configuration from a TOML text. -/
def parse? (text : String) : Option Configuration := do
  let m ← Toml.parse? text
  let settings := m.map fun (k, v) =>
    if k = "runtime" then (k, shortened RuntimeSettings.fields.count v)
    else if k = "calls" then (k, shortened CallSettings.fields.count v)
    else (k, v)
  (decode (.obj settings)).toOption

/-- The configuration at a path. -/
def ofEntry (e : Entry) : Except Fault Configuration :=
  if !e.isPresent then .ok standard
  else match e.read with
    | .error reason => .error (.invalidConfig ("Failed to read config file: " ++ reason))
    | .ok text => match parse? text with
      | some c => .ok c
      | none => .error (.invalidConfig "Failed to parse config file: malformed settings")

end TaskGraph.Configuration
