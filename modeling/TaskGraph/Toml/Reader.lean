import TaskGraph.Toml.Scalar
import TaskGraph.Toml.Table

/-!
# Reading TOML documents

A document is lines: blank ones, comments, headers, and keys with values. A value ends on the line on
which it begins, unless it is an array or a text over several lines. Arrays and inline tables may be
nested 79 deep, and a key may have 79 parts.
-/

set_option autoImplicit false

namespace TaskGraph.Toml

/-- Reads something at the front of a text, if it is there, and returns it with what follows. -/
abbrev Reader (α : Type) := List Char → Option (α × List Char)

/-! ## Keys -/

/-- A character of a key without quotes. -/
def isKeyChar (c : Char) : Bool := c.isAlphanum || c = '_' || c = '-'

/-- A part of a key. -/
def part? : List Char → Option (String × List Char)
  | [] => none
  | c :: cs =>
    if c = '"' || c = '\'' then shortText? (c :: cs)
    else
      let taken := (c :: cs).takeWhile isKeyChar
      if taken.isEmpty then none else some (String.ofList taken, (c :: cs).drop taken.length)

/-- The number of parts that a key may have, and of containers that may be nested. -/
def depthLimit : Nat := 79

/-- A key: parts with points between them, and blanks around each. -/
def key? : Nat → List Char → Option (List String × List Char)
  | 0, _ => none
  | fuel + 1, cs => do
    let (p, cs) ← part? (skipBlanks cs)
    match skipBlanks cs with
    | '.' :: cs => do
      let (ps, cs) ← key? fuel cs
      pure (p :: ps, cs)
    | cs => pure ([p], cs)

/-- The parts of a key in front of the last one, and the last one. -/
def split? : List String → Option (List String × String)
  | [] => none
  | [p] => some ([], p)
  | p :: ps => (split? ps).map fun (path, last) => (p :: path, last)

/-! ## Gaps -/

/-- What follows a comment, if one stands in front. -/
def skipComment : List Char → List Char
  | '#' :: cs => cs.dropWhile isPlain
  | cs => cs

/-- What follows blanks, comments and line ends; the fuel bounds the number of lines. -/
def skipLines : Nat → List Char → List Char
  | 0, cs => cs
  | fuel + 1, cs =>
    let cs := skipComment (skipBlanks cs)
    match newline? cs with
    | some cs => skipLines fuel cs
    | none => cs

/-- The rest after a line end, with nothing but blanks and a comment before it. -/
def endOfLine? (cs : List Char) : Option (List Char) :=
  match skipComment (skipBlanks cs) with
  | [] => some []
  | cs => newline? cs

/-! ## Values -/

/-- The items of an array up to its closing bracket; a comma may follow the last one. -/
def items? (one : Reader Json) : Nat → Reader (List Json)
  | 0, _ => none
  | fuel + 1, cs => match skipLines cs.length cs with
    | ']' :: rest => some ([], rest)
    | cs => do
      let (x, cs) ← one cs
      match skipLines cs.length cs with
      | ',' :: cs => do
        let (xs, cs) ← items? one fuel cs
        pure (x :: xs, cs)
      | ']' :: cs => pure ([x], cs)
      | _ => none

/-- A key with its value. -/
def assignment? (one : Reader Json) : Reader (List String × String × Json) := fun cs => do
  let (key, cs) ← key? depthLimit cs
  let (path, name) ← split? key
  let cs ← behind '=' cs
  let (v, cs) ← one (skipBlanks cs)
  pure ((path, name, v), cs)

/-- The entries of an inline table up to its closing brace; no comma follows the last one. -/
def entries? (one : Reader Json) : Nat → Entries → Reader Entries
  | 0, _, _ => none
  | fuel + 1, m, cs => do
    let ((path, name, v), cs) ← assignment? one cs
    let m ← m.put path name v
    match skipBlanks cs with
    | ',' :: cs => entries? one fuel m cs
    | '\x7d' :: cs => pure (m, cs)
    | _ => none

/-- A value with containers nested no deeper than a limit. -/
def value? : Nat → List Char → Option (Json × List Char)
  | depth, '[' :: cs => match depth with
    | 0 => none
    | depth + 1 => (items? (value? depth) (cs.length + 1) cs).map fun (xs, cs) => (.arr xs, cs)
  | depth, '\x7b' :: cs => match depth with
    | 0 => none
    | depth + 1 => match skipBlanks cs with
      | '\x7d' :: cs => some (.obj [], cs)
      | cs => (entries? (value? depth) (cs.length + 1) [] cs).map fun (m, cs) =>
          ((Node.table .header m).toJson, cs)
  | _, cs => scalar? cs

/-! ## Documents -/

/-- A document so far: its names, and the path of the table that keys are put in. -/
structure Draft where
  entries : Entries
  current : List String

namespace Draft

/-- The next header, or the next key with its value, and what follows its line. -/
def next? (d : Draft) : List Char → Option (Draft × List Char)
  | '[' :: '[' :: cs => do
    let (key, cs) ← key? depthLimit cs
    let (path, name) ← split? key
    let cs ← (behind ']' cs).bind (behind ']')
    let m ← d.entries.within (Entries.openItem name) path
    let cs ← endOfLine? cs
    pure (⟨m, key⟩, cs)
  | '[' :: cs => do
    let (key, cs) ← key? depthLimit cs
    let (path, name) ← split? key
    let cs ← behind ']' cs
    let m ← d.entries.within (Entries.openTable name) path
    let cs ← endOfLine? cs
    pure (⟨m, key⟩, cs)
  | cs => do
    let ((path, name, v), cs) ← assignment? (value? depthLimit) cs
    let m ← d.entries.within (Entries.put path name v) d.current
    let cs ← endOfLine? cs
    pure (⟨m, d.current⟩, cs)

/-- Reads line after line; the fuel bounds their number. -/
def read? : Nat → Draft → List Char → Option Draft
  | 0, _, _ => none
  | fuel + 1, d, cs => match skipLines cs.length cs with
    | [] => some d
    | cs => (d.next? cs).bind fun (d, cs) => read? fuel d cs

end Draft

/-- The value of a document, in front of which a byte order mark may stand. -/
def parse? (text : String) : Option Members :=
  let cs := match text.toList with
    | '\ufeff' :: cs => cs
    | cs => cs
  (Draft.read? (cs.length + 1) ⟨[], []⟩ cs).map fun d => Members.ofList (membersOf d.entries)

end TaskGraph.Toml
