import TaskGraph.Json.Basic

/-!
# TOML tables under construction

A document is put together from headers and keys. A table can be extended only in the ways it was made
for: a header completes a table that other headers implied, a key with points in it extends tables that
such keys made. Every other second definition of a name is refused.
-/

set_option autoImplicit false

namespace TaskGraph.Toml

/-- How a table came to be: by its header, by a header of a table inside it, or by a key with points. -/
inductive Origin where
  | header
  | implied
  | dotted
  deriving Repr, DecidableEq

/-- What a name stands for. -/
inductive Node where
  | value (v : Json)
  | table (origin : Origin) (entries : List (String × Node))
  /-- The tables of an array of tables, latest first. -/
  | tables (items : List (List (String × Node)))
  deriving Repr

/-- The names of a table. -/
abbrev Entries := List (String × Node)

namespace Entries

/-- Replaces what a name stands for. -/
def replace (m : Entries) (name : String) (n : Node) : Entries :=
  m.map fun e => if e.1 = name then (name, n) else e

/-- Gives a value to a key inside the tables of a path, which are made where they are missing. -/
def put : List String → String → Json → Entries → Option Entries
  | [], key, v, m => if (m.lookup key).isSome then none else some (m ++ [(key, .value v)])
  | p :: ps, key, v, m =>
    match m.lookup p with
    | none => (put ps key v []).map fun t => m ++ [(p, .table .dotted t)]
    | some (.table .dotted t) => (put ps key v t).map fun t => m.replace p (.table .dotted t)
    | some (.table .implied t) =>
      if ps.isEmpty then none
      else (put ps key v t).map fun t => m.replace p (.table .implied t)
    | some (.tables (t :: before)) =>
      if ps.isEmpty then none
      else (put ps key v t).map fun t => m.replace p (.tables (t :: before))
    | _ => none

/-- Changes the table at the end of a path; of an array of tables, the latest one is meant. -/
def within (f : Entries → Option Entries) : List String → Entries → Option Entries
  | [], m => f m
  | p :: ps, m =>
    match m.lookup p with
    | none => (within f ps []).map fun t => m ++ [(p, .table .implied t)]
    | some (.table o t) => (within f ps t).map fun t => m.replace p (.table o t)
    | some (.tables (t :: before)) =>
      (within f ps t).map fun t => m.replace p (.tables (t :: before))
    | _ => none

/-- Opens the table of a header. -/
def openTable (name : String) (m : Entries) : Option Entries :=
  match m.lookup name with
  | none => some (m ++ [(name, .table .header [])])
  | some (.table .implied t) => some (m.replace name (.table .header t))
  | _ => none

/-- Opens the next table of an array of tables. -/
def openItem (name : String) (m : Entries) : Option Entries :=
  match m.lookup name with
  | none => some (m ++ [(name, .tables [[]])])
  | some (.tables ts) => some (m.replace name (.tables ([] :: ts)))
  | _ => none

end Entries

/-! ## Values -/

mutual

/-- A finished value. -/
def Node.toJson : Node → Json
  | .value v => v
  | .table _ m => .obj (Members.ofList (membersOf m))
  | .tables ts => .arr (itemsOf ts).reverse

/-- The members of a table. -/
def membersOf : List (String × Node) → List (String × Json)
  | [] => []
  | (k, n) :: rest => (k, n.toJson) :: membersOf rest

/-- The tables of an array, latest first. -/
def itemsOf : List (List (String × Node)) → List Json
  | [] => []
  | m :: rest => .obj (Members.ofList (membersOf m)) :: itemsOf rest

end

end TaskGraph.Toml
