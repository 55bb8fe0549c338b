import TaskGraph.Shell.Arithmetic
import TaskGraph.Shell.Builtin
import TaskGraph.Shell.Glob
import TaskGraph.Shell.Parser

/-!
# Running scripts

Words are expanded into fields, commands are run one after the other, and what they write is kept in
the state. A script may go on for ever, so running takes fuel; a shell that has used it up has not
ended.
-/

set_option autoImplicit false

namespace TaskGraph.Shell

open Text (Bytes bytes)

/-! ## Fields -/

/-- A piece of an expanded word. -/
inductive Piece where
  /-- Stays as it is. -/
  | solid (text : String)
  /-- Is split at blanks. -/
  | loose (text : String)
  /-- Two fields meet here. -/
  | border
  /-- No field, if the word holds nothing else. -/
  | absent
  deriving Repr, DecidableEq

/-- Fields that are complete, and the one that is being put together, if one is. -/
structure Fields where
  complete : List String
  current : Option String

namespace Fields

/-- Ends the current field. -/
def close (f : Fields) : Fields :=
  match f.current with
  | some s => ⟨f.complete ++ [s], none⟩
  | none => f

/-- Adds to the current field. -/
def add (f : Fields) (s : String) : Fields := { f with current := some (f.current.getD "" ++ s) }

/-- Adds a piece. -/
def push (f : Fields) : Piece → Fields
  | .solid s => f.add s
  | .loose s => s.toList.foldl (fun f c =>
      if c = ' ' || c = '\t' || c = '\n' then f.close else f.add (String.singleton c)) f
  | .border => f.close
  | .absent => f

end Fields

/-- The fields that pieces make up. -/
def fieldsOf (ps : List Piece) : List String :=
  if ps.contains .absent && ps.all fun p => p = .absent || p = .solid "" then []
  else (ps.foldl Fields.push ⟨[], none⟩).close.complete

/-- The text that pieces make up when they are not split. -/
def textOf (ps : List Piece) : String :=
  String.join (ps.map fun
    | .solid s | .loose s => s
    | .border => " "
    | .absent => "")

/-- The pattern that pieces make up; what is solid matches itself. -/
def patternOf (w : Word) (ps : List Piece) : String :=
  if w.all fun
    | .text _ quoted => !quoted
    | _ => true
  then textOf ps
  else String.join (ps.map fun
    | .solid s => literalPattern s
    | .loose s => s
    | .border => " "
    | .absent => "")

/-- The pieces of the positional parameters: in quotes, each is a field of its own. -/
def positional (s : State) (joined quoted : Bool) : List Piece :=
  if quoted && joined then [.solid (" ".intercalate s.arguments)]
  else if s.arguments.isEmpty then [.absent]
  else (s.arguments.map fun a => if quoted then Piece.solid a else .loose a).intersperse .border

/-- A text as a piece. -/
def piece (quoted : Bool) (text : String) : List Piece :=
  if quoted then [.solid text] else if text = "" then [] else [.loose text]

/-- An output without the line ends behind it. -/
def withoutLineEnds (b : Bytes) : String :=
  Text.ofBytes (b.reverse.dropWhile (· = 10)).reverse

/-! ## Programs -/

/-- What a program that reads files puts out: their contents one after the other. -/
def concatenate (s : State) (names : List String) : State :=
  if names.isEmpty then (s.emit 1 s.input).withStatus 0
  else names.foldl (fun s n =>
    if n = "-" then s.emit 1 s.input
    else match (s.entry n).read with
      | .ok t => s.emit 1 (bytes t)
      | .error reason =>
        let plain := String.ofList (reason.toList.takeWhile (· != '('))
        let complaint := "cat: " ++ n ++ ": " ++ plain.trimAsciiEnd.toString ++ "\n"
        (s.emit 2 (bytes complaint)).withStatus 1) (s.withStatus 0)

/-- The milliseconds that a word asks to sleep for. -/
def sleepMillis? (word : String) : Option Nat :=
  let (cs, unit) := match word.toList.reverse with
    | 's' :: cs => (cs.reverse, 1000.0)
    | 'm' :: cs => (cs.reverse, 60000.0)
    | 'h' :: cs => (cs.reverse, 3600000.0)
    | cs => (cs.reverse, 1000.0)
  (Decimal.float? cs).map fun x => (x * unit).ceil.toUInt64.toNat

/-- The name of a program without the directory that programs stand in. -/
def programName (name : String) : String :=
  match ["/usr/bin/", "/bin/", "/usr/local/bin/"].find? fun d => name.startsWith d with
  | some d => String.ofList (name.toList.drop d.length)
  | none => name

/-- Runs a program that needs no shell, if the name is that of one. -/
def program? (s : State) (name : String) (words : List String) : Option State :=
  match programName name with
  | "echo" => some ((s.emit 1 (echo .standalone words)).withStatus 0)
  | "printf" => match words with
    | [] => some ((s.emit 2 (bytes
        "printf: missing operand\nTry 'printf --help' for more information.\n")).withStatus 1)
    | format :: arguments =>
      let (out, complaints) := printf .standalone format arguments
      let s := s.emit 1 out
      some ((complaints.foldl (fun s c => s.emit 2 (bytes (c ++ "\n"))) s).withStatus
        (if complaints.isEmpty then 0 else 1))
  | "true" => some (s.withStatus 0)
  | "false" => some (s.withStatus 1)
  | "cat" => some (concatenate s words)
  | "pwd" => some ((s.emit 1 (bytes (s.directory ++ "\n"))).withStatus 0)
  | "sleep" => match words.mapM sleepMillis? with
    | some (t :: ts) => some { s with elapsed := ts.foldl (· + ·) (s.elapsed + t), status := 0 }
    | some [] => some ((s.emit 2 (bytes
        "sleep: missing operand\nTry 'sleep --help' for more information.\n")).withStatus 1)
    | none => some ((s.emit 2 (bytes ("sleep: invalid time interval '" ++ words.headD "" ++
        "'\nTry 'sleep --help' for more information.\n"))).withStatus 1)
  | _ => none

/-- What a shell is started with: a script or a file, options, its name and its arguments. -/
inductive Invoked where
  | script (text name : String) (arguments : List String) (strict : Bool)
  | file (path : String) (arguments : List String) (strict : Bool)
  | input (strict : Bool)
  | incomplete
  deriving Repr, DecidableEq

/-- Reads the words behind the name of the shell. -/
def Invoked.ofWords (self : String) (strict script : Bool) : List String → Invoked
  | [] => if script then .incomplete else .input strict
  | w :: ws => match w.toList with
    | '-' :: c :: cs =>
      if c = '-' then .ofWords self strict script ws
      else .ofWords self (strict || (c :: cs).contains 'e') (script || (c :: cs).contains 'c') ws
    | _ =>
      if script then .script w (ws.headD self) ws.tail strict else .file w ws strict

/-! ## Redirections -/

/-- Leads a stream to where a redirection says; nothing when that cannot be opened. -/
def redirected? (s : State) (stream : Nat) (direction : Direction) (target : String) :
    Except String State :=
  match direction with
  | .read => match (s.entry target).read with
    | .ok t => .ok { s with input := bytes t }
    | .error _ => .error ("cannot open " ++ target ++ ": No such file")
  | .write =>
    if target = "/dev/null" then .ok (s.redirect stream .nowhere)
    else if s.entry target = .directory then .error ("cannot create " ++ target ++ ": Is a directory")
    else .ok ({ s with written := (s.path target, []) :: s.written.filter (·.1 != s.path target) }.redirect
      stream (.file (s.path target)))
  | .append =>
    if target = "/dev/null" then .ok (s.redirect stream .nowhere)
    else .ok (s.redirect stream (.file (s.path target)))
  | .duplicate =>
    if target = "-" then .ok (s.redirect stream .nowhere)
    else match target.toNat?.bind fun n => s.sinks.lookup n with
      | some sink => .ok (s.redirect stream sink)
      | none => .error (target ++ ": Bad file descriptor")

/-- Whether a loop ends after a turn, and the state in which it does or goes on. -/
def afterTurn (s : State) : Bool × State :=
  match s.control with
  | .running => (false, s)
  | .breaking n => (true, { s with control := if n ≤ 1 then .running else .breaking (n - 1) })
  | .continuing n =>
    if n ≤ 1 then (false, { s with control := .running })
    else (true, { s with control := .continuing (n - 1) })
  | _ => (true, s)

/-- Ends a strict script whose command has failed. -/
def checked (s : State) : State :=
  if s.strict && !s.tested && s.status != 0 && s.goesOn then { s with control := .leaving } else s

mutual

/-- Expands a part of a word. -/
def expandPart : Nat → Part → State → Option (List Piece × State)
  | 0, _, _ => none
  | _ + 1, .text t _, s => some ([.solid t], s)
  | fuel + 1, .output script quoted, s => do
    let sinks := (1, Sink.output) :: s.sinks.filter (·.1 != 1)
    let inner ← runText fuel script.toList { s with output := [], sinks := sinks }
    let back := (inner.backTo s).withStreamsOf s
    some (piece quoted (withoutLineEnds inner.output), { back with output := s.output })
  | fuel + 1, .arithmetic e quoted, s => do
    let w ← (wordOf e).toOption
    let (ps, s) ← expandParts fuel w s
    match Arithmetic.evaluate s.parameter (textOf ps) with
    | .ok n => some (piece quoted (Decimal.intText n), s)
    | .error message => some ([], (s.complain (message ++ ": \"" ++ textOf ps ++ "\"")).leave 2)
  | fuel + 1, .parameter name change quoted, s =>
    match change with
    | none =>
      if name = "@" || name = "*" then some (positional s (name = "*") quoted, s)
      else some (piece quoted (s.parameter name), s)
    | some (op, word) =>
      let value := s.parameter? name
      let isBlank := value = some "" && op.startsWith ":"
      let given := value.isSome && !isBlank
      let text := value.getD ""
      let other : Option (List Piece × State) := do
        let w ← (wordOf word).toOption
        expandParts fuel w s
      match op with
      | "length" => some (piece quoted (Decimal.natText (if name = "@" || name = "*" then s.arguments.length
          else text.length)), s)
      | "-" | ":-" =>
        if given then some (piece quoted text, s)
        else other.map fun (ps, s) => (if quoted then [.solid (textOf ps)] else ps, s)
      | "+" | ":+" =>
        if !given then some (piece quoted "", s)
        else other.map fun (ps, s) => (if quoted then [.solid (textOf ps)] else ps, s)
      | "=" | ":=" =>
        if given then some (piece quoted text, s)
        else other.map fun (ps, s) => (piece quoted (textOf ps), s.set name (textOf ps))
      | "?" | ":?" =>
        if given then some (piece quoted text, s)
        else other.map fun (ps, s) =>
          let message := if word = "" then "parameter not set" else textOf ps
          ([], (s.complain (name ++ ": " ++ message)).leave 2)
      | _ => do
        let w ← (wordOf word).toOption
        let (ps, s) ← expandParts fuel w s
        let pattern := patternOf w ps
        let longest := op = "##" || op = "%%"
        let cut := if op.startsWith "#" then withoutBeginning longest pattern text
          else withoutEnding longest pattern text
        some (piece quoted cut, s)

/-- Expands the parts of a word. -/
def expandParts : Nat → List Part → State → Option (List Piece × State)
  | 0, _, _ => none
  | _ + 1, [], s => some ([], s)
  | fuel + 1, p :: ps, s => do
    let (a, s) ← expandPart fuel p s
    let (b, s) ← expandParts fuel ps s
    some (a ++ b, s)

/-- Expands words into fields. -/
def expandWords : Nat → List Word → State → Option (List String × State)
  | 0, _, _ => none
  | _ + 1, [], s => some ([], s)
  | fuel + 1, w :: ws, s => do
    let (ps, s) ← expandParts fuel w s
    let (rest, s) ← expandWords fuel ws s
    some (fieldsOf ps ++ rest, s)

/-- Performs assignments. -/
def assignAll (exported : Bool) : Nat → List (String × Word) → State → Option State
  | 0, _, _ => none
  | _ + 1, [], s => some s
  | fuel + 1, (name, w) :: rest, s => do
    let (ps, s) ← expandParts fuel w s
    let s := s.set name (textOf ps)
    assignAll exported fuel rest (if exported then s.exportVariable name else s)

/-- Performs redirections; the state tells by a message when one cannot be performed. -/
def redirectAll : Nat → List Redirection → State → Option (Option String × State)
  | 0, _, _ => none
  | _ + 1, [], s => some (none, s)
  | fuel + 1, r :: rs, s => do
    let (ps, s) ← expandParts fuel r.target s
    match redirected? s r.stream r.direction (textOf ps) with
    | .ok s => redirectAll fuel rs s
    | .error message => some (some message, s)

/-- Runs a command by its name. -/
def runCommand (functions : Bool) : Nat → List String → State → Option State
  | 0, _, _ => none
  | _ + 1, [], s => some s
  | fuel + 1, name :: words, s =>
    match if functions then s.functions.lookup name else none with
    | some body => do
      let inner ← run fuel body { s with arguments := words }
      let control := if inner.control = .returning then Control.running else inner.control
      some { inner with arguments := s.arguments, control := control }
    | none => match name with
      | "eval" => runText fuel (" ".intercalate words).toList { s with status := 0 }
      | "command" => match words with
        | "-v" :: n :: _ =>
          some (if (builtin? s n []).isSome || (program? s n []).isSome then
            (s.emit 1 (bytes (n ++ "\n"))).withStatus 0 else s.withStatus 127)
        | words => runCommand false fuel words s
      | "exec" => match words with
        | [] => some (s.withStatus 0)
        | words => do
          let s ← runCommand false fuel words s
          some (if s.goesOn then { s with control := .leaving } else s)
      | "." => match words with
        | file :: _ => match (s.entry file).read with
          | .ok t => do
            let s ← runText fuel t.toList s
            some (if s.control = .returning then { s with control := .running } else s)
          | .error _ => some ((s.complain (".: cannot open " ++ file ++ ": No such file")).leave 2)
        | [] => some (s.withStatus 0)
      | _ => match builtin? s name words with
        | some s => some s
        | none => match program? s name words with
          | some s => some s
          | none =>
            if programName name = "sh" then
              (runShell fuel name words s).map fun t =>
                { t.backTo s with
                  control := s.control
                  status := if t.control = .killed then 137 else t.status }
            else some ((s.complain (name ++ ": not found")).withStatus 127)

/-- Runs another shell on the streams of a state, and returns its last state. -/
def runShell : Nat → String → List String → State → Option State
  | 0, _, _, _ => none
  | fuel + 1, self, words, s =>
    let inner (name : String) (arguments : List String) (strict : Bool) : State :=
      { State.start s.files s.directory name arguments s.environment s.input with
        sinks := s.sinks, output := s.output, errors := s.errors, written := s.written,
        elapsed := s.elapsed, strict := strict }
    let refused (message : String) : State :=
      ({ inner self [] false with line := 0 }.complain message).leave 2
    match Invoked.ofWords self false false words with
    | .script text name arguments strict => runText fuel text.toList (inner name arguments strict)
    | .file path arguments strict => match (s.entry path).read with
      | .ok t => runText fuel t.toList (inner path arguments strict)
      | .error _ => some (refused ("cannot open " ++ path ++ ": No such file"))
    | .input strict => runText fuel (Text.ofBytes s.input).toList (inner self [] strict)
    | .incomplete => some (refused "-c requires an argument")

/-- Runs a script. -/
def run : Nat → Script → State → Option State
  | 0, _, _ => none
  | _ + 1, .nothing, s => some s
  | fuel + 1, .simple assignments words redirections, s =>
    if !s.goesOn then some s
    else do
      let (fields, t) ← expandWords fuel words s
      if !t.goesOn then some t
      else
        let (problem, r) ← redirectAll fuel redirections t
        match problem with
        | some message => some (checked (((r.complain message).withStatus 2).withStreamsOf s))
        | none => match fields with
          | [] => do
            let r := { r with status := if words.isEmpty then 0 else r.status }
            let r ← assignAll false fuel assignments r
            some (checked (r.withStreamsOf s))
          | name :: rest => do
            let inner ← assignAll true fuel assignments r
            let after ← runCommand true fuel (name :: rest) inner
            let kept := if assignments.isEmpty then after
              else { after with vars := r.vars, exported := r.exported }
            let keeps := name = "exec" && rest.isEmpty
            some (checked (if keeps then kept else kept.withStreamsOf s))
  | fuel + 1, .pipeline negated stages, s =>
    if !s.goesOn then some s
    else do
      let t ← runStages fuel stages { s with tested := s.tested || negated }
      let t := { t with tested := s.tested, input := s.input }
      if negated then some (t.withStatus (if t.status = 0 then 1 else 0)) else some (checked t)
  | fuel + 1, .both a b, s => do
    let t ← run fuel a { s with tested := true }
    let t := { t with tested := s.tested }
    if t.goesOn && t.status = 0 then run fuel b t else some t
  | fuel + 1, .either a b, s => do
    let t ← run fuel a { s with tested := true }
    let t := { t with tested := s.tested }
    if t.goesOn && t.status != 0 then run fuel b t else some t
  | fuel + 1, .sequence a b, s => do
    let t ← run fuel a s
    if t.goesOn then run fuel b t else some t
  | fuel + 1, .choice condition yes no, s => do
    let t ← run fuel condition { s with tested := true }
    let t := { t with tested := s.tested }
    if !t.goesOn then some t
    else if t.status = 0 then run fuel yes t
    else run fuel no (match no with
      | .nothing => t.withStatus 0
      | _ => t)
  | fuel + 1, .loop whileFails condition body, s => do
    let t ← run fuel condition { s with tested := true }
    let t := { t with tested := s.tested }
    let (ends, u) := afterTurn t
    if ends then some u
    else if (t.status = 0) = whileFails then some (t.withStatus 0)
    else do
      let v ← run fuel body t
      let (ends, v) := afterTurn v
      if ends then some v else run fuel (.loop whileFails condition body) v
  | fuel + 1, .each name words body, s => do
    let (fields, t) ← expandWords fuel words s
    runEach fuel name body fields (t.withStatus 0)
  | fuel + 1, .cases w arms, s => do
    let (ps, t) ← expandParts fuel w s
    runArms fuel (textOf ps) arms t
  | _ + 1, .define name body, s =>
    some { s with functions := (name, body) :: s.functions, status := 0 }
  | fuel + 1, .group body redirections, s =>
    if !s.goesOn then some s
    else do
      let (problem, r) ← redirectAll fuel redirections s
      match problem with
      | some message => some (checked (((r.complain message).withStatus 2).withStreamsOf s))
      | none => do
        let t ← run fuel body r
        some (t.withStreamsOf s)
  | fuel + 1, .subshell body redirections, s =>
    if !s.goesOn then some s
    else do
      let (problem, r) ← redirectAll fuel redirections s
      match problem with
      | some message => some (checked (((r.complain message).withStatus 2).withStreamsOf s))
      | none => do
        let t ← run fuel body r
        some (checked ((t.backTo s).withStreamsOf s))

/-- Runs the stages of a pipeline, each on what the one before has put out. -/
def runStages : Nat → List Script → State → Option State
  | 0, _, _ => none
  | _ + 1, [], s => some s
  | fuel + 1, [last], s => run fuel last s
  | fuel + 1, stage :: stages, s => do
    let t ← run fuel stage { s with output := [], sinks := (1, .output) :: s.sinks.filter (·.1 != 1) }
    let back := (t.backTo s).withStreamsOf s
    if !back.goesOn then some back
    else runStages fuel stages { back with output := s.output, input := t.output }

/-- Runs a body once for each field. -/
def runEach : Nat → String → Script → List String → State → Option State
  | 0, _, _, _, _ => none
  | _ + 1, _, _, [], s => some s
  | fuel + 1, name, body, f :: fs, s =>
    if !s.goesOn then some s
    else do
      let t ← run fuel body (s.set name f)
      let (ends, t) := afterTurn t
      if ends then some t else runEach fuel name body fs t

/-- Runs the first arm that matches. -/
def runArms : Nat → String → List (List Word × Script) → State → Option State
  | 0, _, _, _ => none
  | _ + 1, _, [], s => some (s.withStatus 0)
  | fuel + 1, text, (ps, body) :: arms, s => do
    let (found, s) ← anyMatches fuel text ps s
    if found then run fuel body (s.withStatus 0) else runArms fuel text arms s

/-- Whether one of some patterns matches. -/
def anyMatches : Nat → String → List Word → State → Option (Bool × State)
  | 0, _, _, _ => none
  | _ + 1, _, [], s => some (false, s)
  | fuel + 1, text, w :: ws, s => do
    let (ps, s) ← expandParts fuel w s
    let pattern := if w.all fun
        | .text _ quoted => !quoted
        | _ => true
      then textOf ps else patternOf w ps
    if glob pattern text then some (true, s) else anyMatches fuel text ws s

/-- Runs the lines of a script. -/
def runText : Nat → List Char → State → Option State
  | 0, _, _ => none
  | fuel + 1, cs, s =>
    if !s.goesOn then some s
    else match nextLine cs with
      | .error message => some ((s.complain message).leave 2)
      | .ok none => some s
      | .ok (some (script, rest)) => do
        let passed := (cs.take (cs.length - rest.length)).filter (· = '\n')
        let t ← run fuel script s
        runText fuel rest { t with line := t.line + passed.length }

end

/-- Fuel for a script that is not expected to go on for ever. -/
def plenty : Nat := 20000

/-- Runs a program by its name; the outer answer is nothing when there is no such program, the inner
one when it does not end. -/
def start? (files : Files) (directory name : String) (words : List String) (vars : Variables) :
    Option (Option Finished) :=
  let s := State.start files directory name [] vars []
  match program? s name words with
  | some s => some (some s.finished)
  | none =>
    if programName name = "sh" then
      some ((runShell plenty name words s).map fun t => t.finished)
    else none

end TaskGraph.Shell
