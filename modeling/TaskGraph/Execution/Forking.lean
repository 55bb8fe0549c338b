import TaskGraph.Execution.Join
import TaskGraph.Execution.Restart

/-!
# Forks

Every branch of a fork starts from the scope that the fork found, and what it writes stays with it. The
values of branches are merged into the data of the fork's scope when all branches have replied.
-/

set_option autoImplicit false

namespace TaskGraph.Forking

/-- Takes replies, stopping branches when the join settles, until as many as are left have come. -/
def collect : Nat → Join → Running Join
  | 0, j => pure j
  | left + 1, j => do
    let (branch, outcome) ← Running.ask .reply
    let (j, stopped) := j.reply branch outcome
    if stopped.isEmpty then collect left j
    else do
      Running.ask (.stop stopped)
      collect left j

/-- A value, unless it is null. -/
def unlessNull : Json → Option Json
  | .null => none
  | v => some v

/-- Merges the values of branches into a scope, in order. -/
def mergeValues (s : Scope) (values : List (Option Json)) : Scope :=
  values.foldl (fun s v => s.mergeData (v.getD .null)) s

/-- The values of branches that are not null, under the keys of the branches. -/
def keyed (branches : List Branch) (values : List (Option Json)) : Members :=
  Members.ofList ((branches.zip values).filterMap fun (b, v) =>
    (v.bind unlessNull).map fun v => (b.key, v))

/-- What a fork makes of a verdict. -/
def conclude (c : Context) (task : String) (branches : List Branch) (s : Scope) :
    Join.Verdict → Running (Option Json × Scope)
  | .won v => pure (unlessNull v, s.mergeData v)
  | .joined values => pure (some (.obj (keyed branches values)), mergeValues s values)
  | .failed f => throw f
  | .stopped => do
    if ← Running.cancelled c then throw (.cancelled task) else pure (none, s)

/-- Runs a fork. -/
def run (c : Context) (task : String) (compete : Bool) (branches : List Branch) (input : Json)
    (s : Scope) : Running (Option Json × Scope) := do
  Running.ask (.fork c (branches.map Branch.graph) input s.child)
  let j ← collect branches.length (Join.start compete branches.length)
  conclude c task branches s j.verdict

end TaskGraph.Forking
