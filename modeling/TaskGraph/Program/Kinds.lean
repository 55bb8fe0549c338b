import TaskGraph.Program.Basic

/-!
# Kinds of task

The set of kinds that a program may use is open. A kind is either built in or evaluates the structure
that is the body of its task. A task of a kind that is not in the set is refused.
-/

set_option autoImplicit false

namespace TaskGraph

/-- How the tasks of a kind are built. -/
inductive TaskKind where
  | builtIn
  /-- Evaluates a structure. -/
  | custom (replayed : Bool)
  deriving Repr, DecidableEq

/-- The kinds that a program may use, by the key that stands for them; the keys are sorted. -/
structure Kinds where
  entries : List (String × TaskKind)
  deriving Repr, DecidableEq

namespace Kinds

/-- No kind. -/
def empty : Kinds := ⟨[]⟩

/-- Puts an entry into its place, over one with the same key. -/
def insertEntry (tag : String) (kind : TaskKind) : List (String × TaskKind) → List (String × TaskKind)
  | [] => [(tag, kind)]
  | e :: es =>
    if tag < e.1 then (tag, kind) :: e :: es
    else if tag = e.1 then (tag, kind) :: es
    else e :: insertEntry tag kind es

/-- Adds or replaces a kind. -/
def register (k : Kinds) (tag : String) (kind : TaskKind) : Kinds :=
  ⟨insertEntry tag kind k.entries⟩

/-- The kinds that are built in. -/
def standard : Kinds :=
  ["do", "for", "fork", "switch", "try", "call", "run", "wait", "raise", "listen", "set"].foldl
    (fun k tag => k.register tag .builtIn) empty

/-- The kind of a key. -/
def find? (k : Kinds) (tag : String) : Option TaskKind := k.entries.lookup tag

/-- Whether there is a kind of that key. -/
def contains (k : Kinds) (tag : String) : Bool := (k.find? tag).isSome

/-- The keys in words. -/
def describe (k : Kinds) : String :=
  "BuilderRegistry \x7b tags: [" ++
    ", ".intercalate (k.entries.map fun e => Text.shown e.1) ++ "] \x7d"

end Kinds

namespace Listener

/-- Whether a listener has events, and all of them are queries. -/
def onlyQueries (l : Listener) : Bool :=
  !l.events.isEmpty && l.events.all fun e => e.type == .query

end Listener

namespace Action

/-- The structure that a task of a custom kind evaluates. -/
def structureBody : Action → Json
  | assign value => value
  | custom _ body => body
  | _ => .null

/-- Whether a task of a built-in kind runs again on the way to the child that a run resumes at: lists do,
for the listeners inside them, and so do listeners to queries. -/
def replayed : Action → Bool
  | block _ => true
  | listen l => l.onlyQueries
  | _ => false

end Action

namespace Kinds

/-- How a task is built and whether it is replayed. A fork has branches. -/
def builder (k : Kinds) (name : String) (action : Action) : Except Fault (TaskKind × Bool) :=
  match k.find? action.tag, action with
  | none, _ => .error (.unsupportedTask name action.tag)
  | some (.custom replayed), _ => .ok (.custom replayed, replayed)
  | some .builtIn, .fork _ [] => .error (.invalidTask name "fork declares no branches")
  | some .builtIn, action => .ok (.builtIn, action.replayed)

end Kinds

end TaskGraph
