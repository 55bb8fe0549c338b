import TaskGraph.Decimal.Layout

/-!
# Names of children and generated graphs

A child of a sequence is identified by its name and its ordinal. A graph made for a loop, a fork branch,
a try or a catch is named after its kind, the graph around it, the task and, for a branch, the branch.
-/

set_option autoImplicit false

namespace TaskGraph.Naming

/-- The identifier of a child of a sequence. -/
def childId (name : String) (ordinal : Nat) : String := name ++ "-" ++ Decimal.natText ordinal

/-- The name of a generated graph. -/
def graphName (kind parent task : String) (key : Option String) : String :=
  kind ++ "_" ++ parent ++ "_" ++ task ++ match key with
    | some key => "_" ++ key
    | none => ""

end TaskGraph.Naming
