import TaskGraph.Decode

/-!
# Scopes

A scope is what the tasks of one run of a graph share: the input and the environment, which stay as
they were when the scope was entered, the data that tasks add to, the output last exported, and, in a
restarted run, the marker of the child at which to resume. `document` is what expressions see.
-/

set_option autoImplicit false

namespace TaskGraph

/-- The state of a run of a graph. -/
structure Scope where
  input : Json
  data : Members
  env : Members
  output : Option Json
  marker : Option String
  deriving Repr, DecidableEq, Inhabited

namespace Scope

/-- A scope with nothing but an input and an environment. -/
def start (input : Json) (env : Members) : Scope := ⟨input, [], env, none, none⟩

/-- Records the value of a name. -/
def setData (s : Scope) (key : String) (value : Json) : Scope :=
  { s with data := s.data.insert key value }

/-- Records every member of an object; a value of another kind records nothing. -/
def mergeData (s : Scope) (value : Json) : Scope :=
  match value with
  | .obj m => { s with data := s.data.insertAll m }
  | _ => s

/-- Whether a value is one that `mergeData` records. -/
def mergeable : Json → Bool
  | .obj _ => true
  | _ => false

/-- Whether the run is on its way to the child at which to resume. -/
def isResuming (s : Scope) : Bool := s.marker.isSome

/-- A scope entered from this one, with the same input, data and environment. -/
def child (s : Scope) : Scope := { s with output := none, marker := none }

/-- A scope entered from this one with an input of its own. -/
def childWithInput (s : Scope) (input : Json) : Scope := { s.child with input := input }

/-- The members that expressions see; `locals` are laid over the state, later ones over earlier. -/
def document (s : Scope) (locals : List (String × Json)) : Members :=
  (Members.ofList [("data", .obj s.data), ("env", .obj s.env), ("input", s.input),
    ("output", s.output.getD .null)]).insertAll locals

/-- Equality that takes the two zeros for one number. -/
def same (a b : Scope) : Bool :=
  a.input.same b.input && Json.sameMembers a.data b.data && Json.sameMembers a.env b.env &&
    (match a.output, b.output with
      | none, none => true
      | some x, some y => x.same y
      | _, _ => false) &&
    a.marker == b.marker

/-- A scope as a value; an absent output and an absent marker are left out. -/
def toJson (s : Scope) : Json :=
  Json.object <|
    [("input", s.input), ("data", .obj s.data), ("env", .obj s.env)] ++
      (match s.output with
        | some v => [("output", v)]
        | none => []) ++
      (match s.marker with
        | some m => [("resume_marker", .str m)]
        | none => [])

/-- The fields of a scope; all of them may be absent. -/
def fields : Decode.Fields Scope :=
  Decode.Fields.none Scope.mk
    |>.and (.withDefault "input" Decode.value .null)
    |>.and (.withDefault "data" Decode.members [])
    |>.and (.withDefault "env" Decode.members [])
    |>.and (.maybe "output" Decode.value)
    |>.and (.maybe "resume_marker" Decode.string)

/-- Reads a scope. -/
def decode : Decoder Scope := Decode.record "ExecutionState" fields

end Scope

end TaskGraph
