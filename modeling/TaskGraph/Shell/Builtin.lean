import TaskGraph.Shell.Format
import TaskGraph.Shell.State

/-!
# Commands inside the shell

The commands that neither run a script nor need one: writing, tests, variables, moving about, signals
and the ways to leave.
-/

set_option autoImplicit false

namespace TaskGraph.Shell

open Text (Bytes bytes)

/-! ## Tests -/

/-- An integer in decimal digits, perhaps with a sign. -/
def integer? (text : String) : Option Int :=
  match text.toList with
  | '-' :: cs => (Decimal.natIn? 10 cs).map fun n => -(n : Int)
  | '+' :: cs => (Decimal.natIn? 10 cs).map fun n => (n : Int)
  | cs => (Decimal.natIn? 10 cs).map fun n => (n : Int)

/-- The outcome of a comparison of two texts, if the word in the middle is one. -/
def compared? (a op b : String) : Option (Except String Bool) :=
  let numbers (f : Int → Int → Bool) : Option (Except String Bool) :=
    match integer? a, integer? b with
    | some x, some y => some (.ok (f x y))
    | none, _ => some (.error ("Illegal number: " ++ a))
    | _, none => some (.error ("Illegal number: " ++ b))
  match op with
  | "=" | "==" => some (.ok (a = b))
  | "!=" => some (.ok (a != b))
  | "<" => some (.ok (a < b))
  | ">" => some (.ok (b < a))
  | "-eq" => numbers (· == ·)
  | "-ne" => numbers (· != ·)
  | "-lt" => numbers fun x y => x < y
  | "-le" => numbers fun x y => x ≤ y
  | "-gt" => numbers fun x y => y < x
  | "-ge" => numbers fun x y => y ≤ x
  | _ => none

/-- The outcome of a question about one text, if the word is one. -/
def asked? (s : State) (op a : String) : Option Bool :=
  match op with
  | "-n" => some (a != "")
  | "-z" => some (a = "")
  | "-e" | "-r" | "-w" | "-x" => some (s.entry a).isPresent
  | "-f" => some (match s.entry a with
    | .file _ => true
    | _ => false)
  | "-d" => some (s.entry a = .directory)
  | "-s" => some (match s.entry a with
    | .file t => t != ""
    | _ => false)
  | _ => none

/-- The outcome of a test. -/
def tests (s : State) : Nat → List String → Except String Bool
  | 0, _ => .ok false
  | _, [] => .ok false
  | _, [a] => .ok (a != "")
  | fuel + 1, [op, a] =>
    if op = "!" then (tests s fuel [a]).map (!·)
    else match asked? s op a with
      | some b => .ok b
      | none => .error (op ++ ": unexpected operator")
  | fuel + 1, [a, op, b] => match compared? a op b with
    | some r => r
    | none =>
      if op = "-a" then .ok (a != "" && b != "")
      else if op = "-o" then .ok (a != "" || b != "")
      else if a = "!" then (tests s fuel [op, b]).map (!·)
      else .error (op ++ ": unexpected operator")
  | fuel + 1, words =>
    match words.span (· != "-o") with
    | (left, _ :: right) => do
      let x ← tests s fuel left
      let y ← tests s fuel right
      pure (x || y)
    | (_, []) => match words.span (· != "-a") with
      | (left, _ :: right) => do
        let x ← tests s fuel left
        let y ← tests s fuel right
        pure (x && y)
      | (_, []) => match words with
        | "!" :: rest => (tests s fuel rest).map (!·)
        | _ => .error "unexpected operator"

/-- Performs a test. -/
def runTest (s : State) (name : String) (words : List String) : State :=
  match tests s (words.length + 2) words with
  | .ok b => s.withStatus (if b then 0 else 1)
  | .error e => (s.complain (name ++ ": " ++ e)).withStatus 2

/-! ## Signals -/

/-- The signals that end a process. -/
def deadly : List (String × String) :=
  [("HUP", "1"), ("INT", "2"), ("QUIT", "3"), ("ILL", "4"), ("TRAP", "5"), ("ABRT", "6"), ("BUS", "7"),
    ("FPE", "8"), ("KILL", "9"), ("USR1", "10"), ("SEGV", "11"), ("USR2", "12"), ("PIPE", "13"),
    ("ALRM", "14"), ("TERM", "15")]

/-- Whether a name or a number stands for a signal that ends a process. -/
def isDeadly (signal : String) : Bool :=
  let name := if signal.startsWith "SIG" then String.ofList (signal.toList.drop 3) else signal
  deadly.any fun (n, k) => n = name.toUpper || k = name

/-- Sends a signal; only the shell itself can be reached. -/
def kill (s : State) (words : List String) : State :=
  let send (signal : String) (targets : List String) : State :=
    if targets.all (· = State.processId) && !targets.isEmpty then
      if isDeadly signal then { s with control := .killed } else s.withStatus 0
    else (s.complain "kill: No such process").withStatus 1
  match words with
  | "-s" :: signal :: targets => send signal targets
  | w :: targets => match w.toList with
    | '-' :: signal => send (String.ofList signal) targets
    | _ => send "TERM" (w :: targets)
  | [] => (s.complain "kill: Usage: kill [-s sigspec | -signum | -sigspec] [pid | job]...").withStatus 2

/-! ## The rest -/

/-- A status given as a word; the shell leaves when it is none. -/
def statusOf (s : State) (name : String) (words : List String) (next : Nat → State) : State :=
  match words with
  | [] => next s.status
  | w :: _ => match Decimal.natIn? 10 w.toList with
    | some n => next (n % 256)
    | none => (s.complain (name ++ ": Illegal number: " ++ w)).leave 2

/-- Splits an assignment at its first equals sign. -/
def splitAssignment (word : String) : String × Option String :=
  match word.toList.dropWhile (· != '=') with
  | _ :: value => (String.ofList (word.toList.takeWhile (· != '=')), some (String.ofList value))
  | [] => (word, none)

/-- Sets variables given as assignments or names. -/
def declare (exported : Bool) (s : State) (words : List String) : State :=
  (words.filter fun w => !w.startsWith "-").foldl (fun s w =>
    let (name, value) := splitAssignment w
    let s := match value with
      | some v => s.set name v
      | none => s
    if exported then s.exportVariable name else s) (s.withStatus 0)

/-- Reads a line into variables, the last one taking what is left. -/
def readLine (s : State) (names : List String) : State :=
  let names := names.filter fun n => !n.startsWith "-"
  let line := s.input.takeWhile (· != 10)
  let rest := s.input.drop line.length
  let found := !rest.isEmpty
  let words := ((Text.ofBytes line).split fun c => c = ' ' || c = '\t').toList.filterMap fun w =>
    if w.isEmpty then none else some w.toString
  let rec fill (s : State) : List String → List String → State
    | [], _ => s
    | [n], ws => s.set n (" ".intercalate ws)
    | n :: ns, ws => fill (s.set n (ws.headD "")) ns ws.tail
  (fill { s with input := rest.drop 1 } names words).withStatus (if found then 0 else 1)

/-- Goes into a directory. -/
def changeDirectory (s : State) (words : List String) : State :=
  match words with
  | [] => s.withStatus 0
  | d :: _ => match s.entry d with
    | .directory =>
      let parts := Files.parts (s.path d)
      let way := parts.foldl (fun (w : List String) p => if p = ".." then w.dropLast else w ++ [p]) []
      let joined := "/".intercalate way
      { s with directory := if (s.path d).startsWith "/" then "/" ++ joined else
          if joined = "" then "." else joined }.withStatus 0
    | _ => (s.complain ("cd: can't cd to " ++ d)).withStatus 2

/-- Sets options and positional parameters. -/
def setOptions (s : State) : List String → State
  | [] => s.withStatus 0
  | "--" :: words => { s with arguments := words }.withStatus 0
  | w :: words => match w.toList with
    | '-' :: cs => setOptions { s with strict := s.strict || cs.contains 'e' } words
    | '+' :: cs => setOptions { s with strict := s.strict && !cs.contains 'e' } words
    | _ => { s with arguments := w :: words }.withStatus 0

/-- Performs a command of the shell, if the name is that of one. -/
def builtin? (s : State) (name : String) (words : List String) : Option State :=
  match name with
  | ":" | "true" | "wait" | "trap" | "umask" | "ulimit" => some (s.withStatus 0)
  | "false" => some (s.withStatus 1)
  | "echo" => some ((s.emit 1 (echo .builtin words)).withStatus 0)
  | "printf" => match words with
    | [] => some ((s.complain "printf: usage: printf format [arg ...]").withStatus 2)
    | format :: arguments =>
      let (out, complaints) := printf .builtin format arguments
      let s := s.emit 1 out
      some ((complaints.foldl State.complain s).withStatus (if complaints.isEmpty then 0 else 1))
  | "exit" => some (statusOf s "exit" words s.leave)
  | "return" => some (statusOf s "return" words fun n => { s with status := n, control := .returning })
  | "break" => some (statusOf s "break" (if words.isEmpty then ["1"] else words) fun n =>
      { s with status := 0, control := .breaking n })
  | "continue" => some (statusOf s "continue" (if words.isEmpty then ["1"] else words) fun n =>
      { s with status := 0, control := .continuing n })
  | "test" => some (runTest s "test" words)
  | "[" => match words.getLast? with
    | some "]" => some (runTest s "[" words.dropLast)
    | _ => some ((s.complain "[: missing ]").withStatus 2)
  | "pwd" => some ((s.emit 1 (bytes (s.directory ++ "\n"))).withStatus 0)
  | "cd" => some (changeDirectory s words)
  | "export" | "readonly" => some (declare true s words)
  | "local" => some (declare false s words)
  | "unset" => some ((words.foldl State.unset s).withStatus 0)
  | "shift" =>
    let count := (words.head?.bind String.toNat?).getD 1
    some { s with arguments := s.arguments.drop count, status := 0 }
  | "set" => some (setOptions s words)
  | "read" => some (readLine s words)
  | "kill" => some (kill s words)
  | _ => none

end TaskGraph.Shell
