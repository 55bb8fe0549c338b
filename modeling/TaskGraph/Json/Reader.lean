import TaskGraph.Json.Numeral

/-!
# Reading JSON

A text is one value with blanks around it. Containers may be nested 127 deep. Of repeated keys the
last one stays.
-/

set_option autoImplicit false

namespace TaskGraph.Json

/-- A blank between the parts of a JSON text. -/
def isSpace (c : Char) : Bool := c = ' ' || c = '\n' || c = '\t' || c = '\r'

/-- The characters after the blanks in front. -/
def skipSpace (cs : List Char) : List Char := cs.dropWhile isSpace

/-- The value of a hexadecimal digit. -/
def hexValue? (c : Char) : Option Nat :=
  if '0' ≤ c ∧ c ≤ '9' then some (c.toNat - 48)
  else if 'a' ≤ c ∧ c ≤ 'f' then some (c.toNat - 87)
  else if 'A' ≤ c ∧ c ≤ 'F' then some (c.toNat - 55)
  else none

/-- Four hexadecimal digits. -/
def readUnit : List Char → Option (Nat × List Char)
  | a :: b :: c :: d :: rest => do
    let a ← hexValue? a
    let b ← hexValue? b
    let c ← hexValue? c
    let d ← hexValue? d
    pure (((a * 16 + b) * 16 + c) * 16 + d, rest)
  | _ => none

/-- The character of one escaped unit or of a surrogate pair. -/
def readEscapedChar (cs : List Char) : Option (Char × List Char) := do
  let (u, rest) ← readUnit cs
  if 0xDC00 ≤ u ∧ u ≤ 0xDFFF then none
  else if 0xD800 ≤ u ∧ u ≤ 0xDBFF then
    match rest with
    | '\\' :: 'u' :: rest => do
      let (v, rest) ← readUnit rest
      if 0xDC00 ≤ v ∧ v ≤ 0xDFFF then
        pure (Char.ofNat (0x10000 + (u - 0xD800) * 1024 + (v - 0xDC00)), rest)
      else none
    | _ => none
  else pure (Char.ofNat u, rest)

/-- Reads a text up to its closing quote, `acc` holding the characters so far in reverse. -/
def readText : Nat → List Char → List Char → Option (String × List Char)
  | 0, _, _ => none
  | _, _, [] => none
  | fuel + 1, acc, c :: cs =>
    if c = '"' then some (String.ofList acc.reverse, cs)
    else if c.toNat < 32 then none
    else if c = '\\' then
      match cs with
      | '"' :: cs => readText fuel ('"' :: acc) cs
      | '\\' :: cs => readText fuel ('\\' :: acc) cs
      | '/' :: cs => readText fuel ('/' :: acc) cs
      | 'b' :: cs => readText fuel (Char.ofNat 8 :: acc) cs
      | 'f' :: cs => readText fuel (Char.ofNat 12 :: acc) cs
      | 'n' :: cs => readText fuel ('\n' :: acc) cs
      | 'r' :: cs => readText fuel ('\r' :: acc) cs
      | 't' :: cs => readText fuel ('\t' :: acc) cs
      | 'u' :: cs => match readEscapedChar cs with
        | some (c, cs) => readText fuel (c :: acc) cs
        | none => none
      | _ => none
    else readText fuel (c :: acc) cs

/-- A text after its opening quote. -/
def readString (cs : List Char) : Option (String × List Char) := readText (cs.length + 1) [] cs

/-- A reader of one value. -/
abbrev Reader (α : Type) := List Char → Option (α × List Char)

/-- Items separated by commas, up to the closing bracket. -/
def readItems (one : Reader Json) : Nat → List Char → Option (List Json × List Char)
  | 0, _ => none
  | fuel + 1, cs => do
    let (x, cs) ← one cs
    match skipSpace cs with
    | ',' :: cs => do
      let (xs, cs) ← readItems one fuel cs
      pure (x :: xs, cs)
    | ']' :: cs => pure ([x], cs)
    | _ => none

/-- Members separated by commas, up to the closing brace. -/
def readMembers (one : Reader Json) : Nat → List Char → Option (List (String × Json) × List Char)
  | 0, _ => none
  | fuel + 1, cs => do
    match skipSpace cs with
    | '"' :: cs => do
      let (k, cs) ← readString cs
      match skipSpace cs with
      | ':' :: cs => do
        let (v, cs) ← one cs
        match skipSpace cs with
        | ',' :: cs => do
          let (m, cs) ← readMembers one fuel cs
          pure ((k, v) :: m, cs)
        | '\x7d' :: cs => pure ([(k, v)], cs)
        | _ => none
      | _ => none
    | _ => none

/-- One value, with containers nested less deep than the limit. -/
def readValue : Nat → Reader Json
  | 0, _ => none
  | depth + 1, cs =>
    match skipSpace cs with
    | 'n' :: 'u' :: 'l' :: 'l' :: cs => some (.null, cs)
    | 't' :: 'r' :: 'u' :: 'e' :: cs => some (.bool true, cs)
    | 'f' :: 'a' :: 'l' :: 's' :: 'e' :: cs => some (.bool false, cs)
    | '"' :: cs => (readString cs).map fun (s, cs) => (.str s, cs)
    | '[' :: cs => match skipSpace cs with
      | ']' :: cs => if depth = 0 then none else some (.arr [], cs)
      | cs => (readItems (readValue depth) (cs.length + 1) cs).map fun (xs, cs) => (.arr xs, cs)
    | '\x7b' :: cs => match skipSpace cs with
      | '\x7d' :: cs => if depth = 0 then none else some (.obj [], cs)
      | cs => (readMembers (readValue depth) (cs.length + 1) cs).map fun (m, cs) => (object m, cs)
    | cs => (readNumeral cs).map fun (n, cs) => (.num n, cs)

/-- The value that a text holds. -/
def parse? (text : String) : Option Json := do
  let (v, rest) ← readValue 128 text.toList
  if (skipSpace rest).isEmpty then some v else none

end TaskGraph.Json
