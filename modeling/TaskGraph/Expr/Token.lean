/-!
# Words of an expression

`scan` cuts the text of an expression into tokens. The longest token wins, the keywords are no names,
and a character outside the ASCII range is no part of any token. Inside quotes the only escape is the
quote itself.
-/

set_option autoImplicit false

namespace TaskGraph.Expr

/-- A token of an expression. -/
inductive Token where
  | number (x : Float)
  | text (s : String)
  | name (s : String)
  /-- A keyword, bracket or operator. -/
  | mark (s : String)
  deriving Repr, DecidableEq

/-- The names that have a meaning of their own. -/
def keywords : List String := ["true", "false", "null", "in"]

/-- A blank between tokens. -/
def isGap (c : Char) : Bool := c = ' ' || (9 ≤ c.toNat && c.toNat ≤ 13)

/-- An ASCII digit. -/
def isDigit (c : Char) : Bool := '0' ≤ c && c ≤ '9'

/-- A character that starts a name. -/
def isNameStart (c : Char) : Bool := ('a' ≤ c && c ≤ 'z') || ('A' ≤ c && c ≤ 'Z') || c = '_'

/-- A character inside a name. -/
def isNamePart (c : Char) : Bool := isNameStart c || isDigit c

/-- The number that digits around a point stand for. -/
def decimal (whole fraction : List Char) : Float :=
  let digits := (whole ++ fraction).foldl (fun n c => n * 10 + (c.toNat - 48)) 0
  Float.ofScientific digits true fraction.length

/-- The marks of two characters, tried before those of one. -/
def longMarks : List (Char × Char) :=
  [('&', '&'), ('|', '|'), ('=', '='), ('!', '='), ('>', '='), ('<', '='), ('/', '/')]

/-- The marks of one character. -/
def shortMarks : List Char :=
  ['>', '<', '+', '-', '*', '/', '%', '^', '?', ':', '|', '.', ',', '[', ']', '\x7b', '\x7d', '(',
    ')']

/-- A text up to its closing quote. -/
def quoted (quote : Char) : List Char → Option (List Char × List Char)
  | [] => none
  | '\\' :: c :: cs =>
    if c = quote then (quoted quote cs).map fun (s, rest) => (c :: s, rest) else none
  | c :: cs =>
    if c = quote then some ([], cs)
    else if c = '\\' || c.toNat ≥ 128 then none
    else (quoted quote cs).map fun (s, rest) => (c :: s, rest)

/-- The first token of a text that starts with no blank, and what follows it. -/
def next : List Char → Option (Token × List Char)
  | [] => none
  | c :: cs =>
    if c = '"' || c = '\'' then
      (quoted c cs).map fun (s, rest) => (.text (String.ofList s), rest)
    else if isDigit c then
      let whole := c :: cs.takeWhile isDigit
      match cs.dropWhile isDigit with
      | '.' :: d :: rest =>
        if isDigit d then
          some (.number (decimal whole (d :: rest.takeWhile isDigit)), rest.dropWhile isDigit)
        else some (.number (decimal whole []), '.' :: d :: rest)
      | rest => some (.number (decimal whole []), rest)
    else if c = '.' && (cs.head?.map isDigit).getD false then
      some (.number (decimal [] (cs.takeWhile isDigit)), cs.dropWhile isDigit)
    else if isNameStart c then
      let s := String.ofList (c :: cs.takeWhile isNamePart)
      some (if keywords.contains s then .mark s else .name s, cs.dropWhile isNamePart)
    else
      match cs with
      | d :: rest =>
        if longMarks.contains (c, d) then some (.mark (String.ofList [c, d]), rest)
        else if shortMarks.contains c then some (.mark (String.singleton c), d :: rest)
        else none
      | [] => if shortMarks.contains c then some (.mark (String.singleton c), []) else none

/-- The tokens of a text, given at least as much fuel as it has characters. -/
def scanWith : Nat → List Char → Option (List Token)
  | 0, cs => if (cs.dropWhile isGap).isEmpty then some [] else none
  | fuel + 1, cs =>
    match cs.dropWhile isGap with
    | [] => some []
    | cs => do
      let (t, rest) ← next cs
      let ts ← scanWith fuel rest
      pure (t :: ts)

/-- The tokens of a text. -/
def scan (text : String) : Option (List Token) := scanWith text.length text.toList

end TaskGraph.Expr
