import TaskGraph.Host.Conduct

/-!
# Running programs

A program is run on a host from its root, or from any graph without the restarts that the graph asks
for. A limit on the running time gives a run up.
-/

set_option autoImplicit false

namespace TaskGraph

namespace Setting

/-- The terms of a configuration, without chance in the waits between attempts. -/
def ofConfiguration (p : Program) (c : Configuration) : Setting :=
  ⟨p, (RetryPolicy.ofSettings c.calls).steady, c.calls.timeout⟩

end Setting

namespace ProgramOptions

/-- The settings that a program is compiled with under a configuration. -/
def ofConfiguration (c : Configuration) : ProgramOptions :=
  ⟨c.runtime.maxHistory, c.runtime.validateInput⟩

end ProgramOptions

namespace Host

variable {α : Type}

/-- The result of a run of a whole program. -/
abbrev RunResult := Except Fault Restart.Outcome

/-- Runs a program from its root, with an input and an environment. -/
def programRun (p : Program) (input : Json) (env : Members) : Running Restart.Outcome := do
  let g ← Running.ofExcept (p.graph p.root)
  let s ← Running.ofExcept (g.initialScope p.options input env)
  Restart.rootLoop p rootContext Restart.limit g input s

/-- Runs a graph of a program once. -/
def graphRun (g : Graph) (input : Json) (s : Scope) : Running Scope := do
  let c ← Running.ask (.fresh rootContext)
  Running.enter c g input s

/-- A host for a dialogue that enters no graph. -/
def alone (code : Dialogue α) : Host α :=
  start ⟨⟨"", [], .standard⟩, .ofSettings .standard, CallSettings.standard.timeout⟩ (.bare 0)
    .passThrough code

/-- Tries an operation whose outcomes are known as often as a policy says, and tells of each attempt. -/
def trial (policy : RetryPolicy) (outcome : Nat → Except Fault Json) : Running Json :=
  Calling.attempts policy rootContext fun n => do
    Running.tell (.attempt n)
    Running.ofExcept (outcome n)

/-- The number of the first run that a host opens. -/
def firstRun : Nat := 1

/-- Adds signals, those without a time being there from the start. -/
def withSignals (h : Host α) (signals : List (Option Nat × String × Json)) : Host α :=
  signals.foldl (fun h (at?, name, payload) => match at? with
    | none => h.deliver name payload
    | some t => { h with agenda := h.agenda ++ [(t, .signal name payload)] }) h

/-- Cancels everything at a time. -/
def withCancellation (h : Host α) : Option Nat → Host α
  | none => h
  | some 0 => h.cancel rootScope
  | some t => { h with agenda := h.agenda ++ [(t, .cancel)] }

/-- Gives a run up after a time. -/
def withLimit (h : Host RunResult) (workflow : String) : Option Duration → Host RunResult
  | none => h
  | some d => { h with
      deadline := some (h.now + waitMillis d, .error (.runTimeout workflow (d.toMillis % Nat.pow 2 64))) }

end Host

end TaskGraph
