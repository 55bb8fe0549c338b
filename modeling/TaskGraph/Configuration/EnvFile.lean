import TaskGraph.Configuration.Basic
import TaskGraph.Text.Blank

/-!
# Files of variables

A file of variables holds assignments such as `NAME=value`, one after the other. A value may be quoted
and may then go on over several lines; outside of single quotes `$NAME` and a name in braces stand for
the value of a variable. A variable that is set already keeps its value. Nothing is read beyond the
first malformed assignment.
-/

set_option autoImplicit false

namespace TaskGraph.EnvFile

/-! ## Cutting into assignments -/

/-- What has been seen of an assignment. -/
inductive Place where
  | complete
  | escape
  | strong
  | strongEscape
  | weak
  | weakEscape
  | blank
  deriving Repr, DecidableEq

/-- The place after a character; nothing when a comment begins. -/
def Place.next? (p : Place) (c : Char) : Option Place :=
  match p with
  | .blank =>
    if c = '#' then none
    else if c = '\\' then some .escape
    else if c = '"' then some .weak
    else if c = '\'' then some .strong
    else some .complete
  | .complete =>
    if Text.isBlank c && c != '\n' && c != '\r' then some .blank
    else if c = '\\' then some .escape
    else if c = '"' then some .weak
    else if c = '\'' then some .strong
    else some .complete
  | .escape => some .complete
  | .weak => some (if c = '\\' then .weakEscape else if c = '"' then .complete else .weak)
  | .weakEscape => some .weak
  | .strong => some (if c = '\\' then .strongEscape else if c = '\'' then .complete else .strong)
  | .strongEscape => some .strong

/-- Goes through a line. The characters in front of a comment come along when there is one. -/
def scan (p : Place) (seen : List Char) : List Char → Place × Option (List Char)
  | [] => (p, none)
  | c :: cs => match p.next? c with
    | some p => scan p (c :: seen) cs
    | none => (p, some seen.reverse)

/-- The lines of a text, each with its line end. -/
def lines : List Char → List Char → List (List Char)
  | [], [] => []
  | seen, [] => [seen.reverse]
  | seen, '\n' :: cs => ('\n' :: seen).reverse :: lines [] cs
  | seen, c :: cs => lines (c :: seen) cs

/-- A line without its line end. -/
def withoutEnd (cs : List Char) : List Char :=
  match cs.reverse with
  | '\n' :: '\r' :: r => r.reverse
  | '\n' :: r => r.reverse
  | _ => cs

/-- The assignments of a file, joined from lines where a quote is open; nothing for one that does not
end. -/
def assignments (p : Place) (begun : List Char) : List (List Char) → List (Option (List Char))
  | [] => if p = .complete then [] else [none]
  | l :: ls =>
    let joined := begun ++ l
    if (Text.trimStart joined).head? = some '#' then some [] :: assignments .complete [] ls
    else match scan p [] l with
      | (_, some seen) => some (begun ++ seen) :: assignments .complete [] ls
      | (.complete, none) => some (withoutEnd joined) :: assignments .complete [] ls
      | (p, none) => assignments p joined ls

/-! ## Values -/

/-- How the name of a variable is being read inside a value: bare, or in braces. -/
inductive Naming where
  | bare
  | braced
  deriving Repr, DecidableEq

/-- A value that is being read. -/
structure Draft where
  output : List Char
  strong : Bool
  weak : Bool
  escaped : Bool
  ended : Bool
  naming : Option Naming
  name : List Char

/-- A letter or a digit. -/
def isWordChar (c : Char) : Bool := c.isAlphanum || (0x80 ≤ c.toNat && !Text.isBlank c)

namespace Draft

/-- Puts the value of the variable whose name has been read. -/
def substitute (d : Draft) (value : String → String) : Draft :=
  { d with output := (value (String.ofList d.name.reverse)).toList.reverse ++ d.output, name := [] }

/-- Reads a character of a name. -/
def named (d : Draft) (value : String → String) (mode : Naming) (c : Char) : Draft :=
  if isWordChar c then { d with name := c :: d.name }
  else match mode with
    | .bare =>
      if c = '\x7b' && d.name.isEmpty then { d with naming := some .braced }
      else
        let d := d.substitute value
        if c = '$' then d else { d with naming := none, output := c :: d.output }
    | .braced =>
      if c = '\x7d' then { d.substitute value with naming := none }
      else { d with name := c :: d.name }

/-- Reads a character of a value; nothing for one that cannot stand there. -/
def push? (value : String → String) (d : Draft) (c : Char) : Option Draft :=
  if d.ended then (if c = ' ' || c = '\t' then some d else none)
  else if d.escaped then
    if c = '\\' || c = '\'' || c = '"' || c = '$' || c = ' ' then
      some { d with output := c :: d.output, escaped := false }
    else if c = 'n' then some { d with output := '\n' :: d.output, escaped := false }
    else none
  else if d.strong then
    some (if c = '\'' then { d with strong := false } else { d with output := c :: d.output })
  else match d.naming with
    | some mode => some (d.named value mode c)
    | none =>
      if c = '$' then some { d with naming := some .bare }
      else if d.weak then
        some (if c = '"' then { d with weak := false }
          else if c = '\\' then { d with escaped := true }
          else { d with output := c :: d.output })
      else if c = '\'' then some { d with strong := true }
      else if c = '"' then some { d with weak := true }
      else if c = '\\' then some { d with escaped := true }
      else if c = ' ' || c = '\t' then some { d with ended := true }
      else some { d with output := c :: d.output }

/-- Reads the characters of a value, up to a comment behind its end. -/
def read? (value : String → String) (d : Draft) : List Char → Option Draft
  | [] => some d
  | c :: cs =>
    if d.ended && c = '#' then some d
    else (d.push? value c).bind fun d => read? value d cs

end Draft

/-- The value that characters stand for. -/
def value? (value : String → String) (cs : List Char) : Option String :=
  match Draft.read? value ⟨[], false, false, false, false, none, []⟩ cs with
  | none => none
  | some d =>
    if d.naming = some .braced || d.strong || d.weak then none
    else some (String.ofList (d.substitute value).output.reverse)

/-! ## Assignments -/

/-- A name at the front. -/
def name? : List Char → Option (String × List Char)
  | [] => none
  | c :: cs =>
    if !(c.isAlpha || c = '_') then none
    else
      let isNameChar (c : Char) : Bool := c.isAlphanum || c = '_' || c = '.'
      some (String.ofList (c :: cs.takeWhile isNameChar), cs.dropWhile isNameChar)

/-- The characters behind an equals sign. -/
def afterEquals? : List Char → Option (List Char)
  | '=' :: cs => some cs
  | _ => none

/-- The name of an assignment, which may be marked as exported, and the characters behind the equals
sign. -/
def target? (cs : List Char) : Option (String × List Char) := do
  let (name, cs) ← name? cs
  let cs := Text.trimStart cs
  match afterEquals? cs with
  | some cs => pure (name, cs)
  | none =>
    if name = "export" then do
      let (name, cs) ← name? cs
      let cs ← afterEquals? (Text.trimStart cs)
      pure (name, cs)
    else none

/-- The variables set so far: those of the process, and those that the file assigned, which stand in
where the process has none. -/
structure Scope where
  vars : Variables
  assigned : Variables

/-- The value of a variable. -/
def Scope.value (s : Scope) (name : String) : String :=
  ((s.vars.lookup name).or (s.assigned.lookup name)).getD ""

/-- Performs an assignment; nothing for a malformed one. -/
def assign? (s : Scope) (line : List Char) : Option Scope :=
  let cs := Text.trimStart (Text.trimEnd line)
  if cs.isEmpty || cs.head? = some '#' then some s
  else do
    let (name, cs) ← target? cs
    let cs := Text.trimStart cs
    let v ← if cs.isEmpty || cs.head? = some '#' then some "" else value? s.value cs
    let vars := if (s.vars.lookup name).isSome then s.vars else s.vars ++ [(name, v)]
    pure ⟨vars, (name, v) :: s.assigned⟩

/-- Performs assignments up to the first malformed one. -/
def assignAll (s : Scope) : List (Option (List Char)) → Scope
  | [] => s
  | none :: _ => s
  | some l :: ls => match assign? s l with
    | some s => assignAll s ls
    | none => s

/-- The variables of a process after the assignments of a file, in front of which a byte order mark may
stand. -/
def load (vars : Variables) (text : String) : Variables :=
  let cs := match text.toList with
    | '\ufeff' :: cs => cs
    | cs => cs
  (assignAll ⟨vars, []⟩ (assignments .complete [] (lines [] cs))).vars

end TaskGraph.EnvFile
