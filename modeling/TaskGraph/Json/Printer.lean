import TaskGraph.Json.Basic
import TaskGraph.Decimal.Layout

/-!
# Writing JSON

The compact form has no blanks. The indented form puts every item and member on a line of its own,
two blanks deeper than its container, and writes empty containers on one line.
-/

set_option autoImplicit false

namespace TaskGraph

/-- The text of a number; one that is not finite is written as null. -/
def Number.render : Number → String
  | .int n => Decimal.intText n
  | .float x => if x.isFinite then Decimal.dataLayout.write x else "null"

namespace Json

/-- A hexadecimal digit. -/
def hexDigit (n : Nat) : Char :=
  if n < 10 then Char.ofNat (48 + n) else Char.ofNat (87 + n)

/-- The characters that stand for one character inside quotes. -/
def quotedChar (c : Char) : List Char :=
  if c = '"' then ['\\', '"']
  else if c = '\\' then ['\\', '\\']
  else if c.toNat = 8 then ['\\', 'b']
  else if c.toNat = 9 then ['\\', 't']
  else if c.toNat = 10 then ['\\', 'n']
  else if c.toNat = 12 then ['\\', 'f']
  else if c.toNat = 13 then ['\\', 'r']
  else if c.toNat < 32 then
    ['\\', 'u', '0', '0', hexDigit (c.toNat / 16), hexDigit (c.toNat % 16)]
  else [c]

/-- A text in quotes. -/
def quote (s : String) : String :=
  "\"" ++ String.ofList (s.toList.flatMap quotedChar) ++ "\""

/-- The texts of a list with a separator between neighbours. -/
def separated (sep : String) : List String → String
  | [] => ""
  | [x] => x
  | x :: xs => x ++ sep ++ separated sep xs

mutual

/-- The compact form of a value. -/
def render : Json → String
  | .null => "null"
  | .bool b => if b then "true" else "false"
  | .num n => n.render
  | .str s => quote s
  | .arr xs => "[" ++ separated "," (renderItems xs) ++ "]"
  | .obj m => "\x7b" ++ separated "," (renderMembers m) ++ "\x7d"

/-- The compact forms of a list of values. -/
def renderItems : List Json → List String
  | [] => []
  | x :: xs => render x :: renderItems xs

/-- The compact forms of a list of members. -/
def renderMembers : List (String × Json) → List String
  | [] => []
  | (k, v) :: m => (quote k ++ ":" ++ render v) :: renderMembers m

end

/-- A text as it is, and any other value in its compact form. -/
def plain : Json → String
  | .str s => s
  | v => v.render

/-- A line break followed by two blanks for each level. -/
def lineBreak (depth : Nat) : String := "\n" ++ String.ofList (List.replicate (2 * depth) ' ')

mutual

/-- The indented form of a value that starts at a depth. -/
def prettyAt (depth : Nat) : Json → String
  | .null => "null"
  | .bool b => if b then "true" else "false"
  | .num n => n.render
  | .str s => quote s
  | .arr [] => "[]"
  | .arr (x :: xs) =>
    "[" ++ lineBreak (depth + 1) ++
      separated ("," ++ lineBreak (depth + 1)) (prettyItems (depth + 1) (x :: xs)) ++
      lineBreak depth ++ "]"
  | .obj [] => "\x7b\x7d"
  | .obj (e :: m) =>
    "\x7b" ++ lineBreak (depth + 1) ++
      separated ("," ++ lineBreak (depth + 1)) (prettyMembers (depth + 1) (e :: m)) ++
      lineBreak depth ++ "\x7d"

/-- The indented forms of a list of values. -/
def prettyItems (depth : Nat) : List Json → List String
  | [] => []
  | x :: xs => prettyAt depth x :: prettyItems depth xs

/-- The indented forms of a list of members. -/
def prettyMembers (depth : Nat) : List (String × Json) → List String
  | [] => []
  | (k, v) :: m => (quote k ++ ": " ++ prettyAt depth v) :: prettyMembers depth m

end

/-- The indented form of a value. -/
def pretty (v : Json) : String := prettyAt 0 v

end Json

end TaskGraph
