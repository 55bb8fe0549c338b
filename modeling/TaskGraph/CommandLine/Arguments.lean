import TaskGraph.Configuration.Basic

/-!
# Arguments of the command line

The command line has two commands: one runs a workflow, the other one only compiles it. Options may
stand before and behind the file, with their value behind a blank, behind an equals sign or, for short
names, directly. Only the option for signals may be given more than once.
-/

set_option autoImplicit false

namespace TaskGraph.CommandLine

/-- What a run is asked for. -/
structure RunRequest where
  file : String
  input : Option String
  inputFile : Option String
  maxHistory : Option Nat
  signals : List String
  history : Option String
  deriving Repr, DecidableEq

/-- What a command line asks for. -/
inductive Asked where
  | run (request : RunRequest)
  | validate (file : String)
  | version
  | help
  deriving Repr, DecidableEq

/-- The options of a run. -/
inductive Flag where
  | input
  | inputFile
  | maxHistory
  | signal
  | history
  deriving Repr, DecidableEq

namespace Flag

/-- The option of a long name. -/
def long? : String → Option Flag
  | "input" => some input
  | "input-file" => some inputFile
  | "max-history-length" => some maxHistory
  | "signal" => some signal
  | "history" => some history
  | _ => none

/-- The option of a short name. -/
def short? : Char → Option Flag
  | 'i' => some input
  | 's' => some signal
  | _ => none

end Flag

/-- An argument: a value, an option that perhaps brings its value along, a request for help, or the mark
behind which everything is a value. -/
inductive Argument where
  | value (text : String)
  | option (flag : Flag) (value : Option String)
  | help
  | rest
  | unknown
  deriving Repr, DecidableEq

/-- The characters behind the first equals sign and those in front of it. -/
def splitAtEquals (cs : List Char) : List Char × Option (List Char) :=
  match cs.dropWhile (· != '=') with
  | _ :: after => (cs.takeWhile (· != '='), some after)
  | [] => (cs, none)

/-- Reads an argument. -/
def Argument.ofText (text : String) : Argument :=
  match text.toList with
  | ['-', '-'] => .rest
  | '-' :: '-' :: cs =>
    let (name, given) := splitAtEquals cs
    match Flag.long? (String.ofList name), given with
    | some f, v => .option f (v.map String.ofList)
    | none, none => if name = "help".toList then .help else .unknown
    | none, some _ => .unknown
  | ['-'] => .value text
  | '-' :: c :: cs => match Flag.short? c, cs with
    | some f, [] => .option f none
    | some f, '=' :: cs => .option f (some (String.ofList cs))
    | some f, cs => .option f (some (String.ofList cs))
    | none, _ => if c = 'h' then .help else .unknown
  | _ => .value text

/-- What has been given so far. -/
structure Given where
  files : List String
  options : List (Flag × String)
  deriving Repr, DecidableEq

/-- Goes through arguments; nothing for those that cannot be understood, and nothing given for a request
for help. -/
def gather (allowed : Flag → Bool) (g : Given) : List String → Option (Option Given)
  | [] => some (some g)
  | a :: as => match Argument.ofText a with
    | .value v => gather allowed { g with files := g.files ++ [v] } as
    | .help => some none
    | .rest => some (some { g with files := g.files ++ as })
    | .unknown => none
    | .option f v =>
      if !allowed f then none
      else match v, as with
        | some v, as => gather allowed { g with options := g.options ++ [(f, v)] } as
        | none, v :: as => match Argument.ofText v with
          | .value v => gather allowed { g with options := g.options ++ [(f, v)] } as
          | _ => none
        | none, [] => none

namespace Given

/-- The values of an option. -/
def values (g : Given) (f : Flag) : List String := (g.options.filter (·.1 == f)).map Prod.snd

/-- The value of an option that may be given once. -/
def single? (g : Given) (f : Flag) : Option (Option String) :=
  match g.values f with
  | [] => some none
  | [v] => some (some v)
  | _ => none

/-- The value of an option that is a path, which may not be empty. -/
def path? (g : Given) (f : Flag) : Option (Option String) :=
  (g.single? f).bind fun v => if v = some "" then none else some v

/-- The one file. -/
def file? (g : Given) : Option String :=
  match g.files with
  | [f] => if f = "" then none else some f
  | _ => none

/-- What a run is asked for. -/
def run? (g : Given) : Option RunRequest := do
  let file ← g.file?
  let input ← g.single? .input
  let inputFile ← g.path? .inputFile
  let limit ← g.single? .maxHistory
  let maxHistory ← match limit with
    | none => some none
    | some text => (Configuration.count? text).map some
  let history ← g.path? .history
  if input.isSome && inputFile.isSome then none
  else pure ⟨file, input, inputFile, maxHistory, g.values .signal, history⟩

end Given

/-- Reads a command line; nothing for one that is misused. -/
def parse? : List String → Option Asked
  | "run" :: as => match gather (fun _ => true) ⟨[], []⟩ as with
    | some (some g) => g.run?.map .run
    | some none => some .help
    | none => none
  | "validate" :: as => match gather (fun _ => false) ⟨[], []⟩ as with
    | some (some g) => g.file?.map .validate
    | some none => some .help
    | none => none
  | a :: as =>
    if a = "--version" || a = "-V" then some .version
    else if a = "--help" || a = "-h" then some .help
    else if a = "help" then
      match as with
      | [] | ["run"] | ["validate"] | ["help"] => some .help
      | _ => none
    else none
  | [] => none

end TaskGraph.CommandLine
