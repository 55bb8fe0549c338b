import TaskGraph.Decimal.Numeral
import TaskGraph.Json.Basic

/-!
# TOML scalars

The scalars of a TOML document: texts in four spellings, truth values, integers of 64 bits in four
bases, binary64 numbers, and dates and times. A reader takes the longest scalar in front of a text;
what may follow it is for the place to say where it stands.
-/

set_option autoImplicit false

namespace TaskGraph.Toml

/-- A blank inside a line. -/
def isBlank (c : Char) : Bool := c = ' ' || c = '\t'

/-- The characters after the blanks in front. -/
def skipBlanks (cs : List Char) : List Char := cs.dropWhile isBlank

/-- The characters after a line end, if one stands in front. -/
def newline? : List Char → Option (List Char)
  | '\n' :: cs => some cs
  | '\r' :: '\n' :: cs => some cs
  | _ => none

/-- A character that a comment and a text may hold as it is, quotes and backslashes apart. -/
def isPlain (c : Char) : Bool := c = '\t' || (' ' ≤ c && c ≤ '~') || 0x80 ≤ c.toNat

/-! ## Texts -/

/-- A character that a number of hexadecimal digits stands for. -/
def codePoint? (count : Nat) (cs : List Char) : Option (Char × List Char) :=
  if cs.length < count then none
  else (Decimal.natIn? 16 (cs.take count)).bind fun n =>
    if n.isValidChar then some (Char.ofNat n, cs.drop count) else none

/-- The character that stands behind a backslash. -/
def escaped? : List Char → Option (Char × List Char)
  | 'b' :: cs => some ('\x08', cs)
  | 'f' :: cs => some ('\x0c', cs)
  | 'n' :: cs => some ('\n', cs)
  | 'r' :: cs => some ('\r', cs)
  | 't' :: cs => some ('\t', cs)
  | '\\' :: cs => some ('\\', cs)
  | '"' :: cs => some ('"', cs)
  | 'u' :: cs => codePoint? 4 cs
  | 'U' :: cs => codePoint? 8 cs
  | _ => none

/-- The characters after all blanks and line ends in front; the fuel bounds their number. -/
def skipGaps : Nat → List Char → List Char
  | 0, cs => cs
  | fuel + 1, cs => match newline? (skipBlanks cs) with
    | some cs => skipGaps fuel cs
    | none => skipBlanks cs

/-- A text up to its closing quote; backslashes escape if they are told to. -/
def line? (quote : Char) (escapes : Bool) : Nat → List Char → List Char → Option (String × List Char)
  | 0, _, _ => none
  | _, _, [] => none
  | fuel + 1, acc, c :: cs =>
    if c = quote then some (String.ofList acc.reverse, cs)
    else if c = '\\' && escapes then
      (escaped? cs).bind fun (c, cs) => line? quote escapes fuel (c :: acc) cs
    else if isPlain c then line? quote escapes fuel (c :: acc) cs
    else none

/-- A text over several lines up to its three closing quotes, of which up to two more may stand in
front and belong to the text. A backslash at the end of a line joins it with the next text. -/
def lines? (quote : Char) (escapes : Bool) : Nat → List Char → List Char → Option (String × List Char)
  | 0, _, _ => none
  | _, _, [] => none
  | fuel + 1, acc, c :: cs =>
    if c = quote then
      let run := (c :: cs).takeWhile (· = quote)
      if run.length < 3 then lines? quote escapes fuel (c :: acc) cs
      else
        let kept := min (run.length - 3) 2
        some (String.ofList (acc.reverse ++ List.replicate kept quote), (c :: cs).drop (kept + 3))
    else if c = '\\' && escapes then
      match newline? (skipBlanks cs) with
      | some rest => lines? quote escapes fuel acc (skipGaps rest.length rest)
      | none => (escaped? cs).bind fun (c, cs) => lines? quote escapes fuel (c :: acc) cs
    else match newline? (c :: cs) with
      | some rest => lines? quote escapes fuel ('\n' :: acc) rest
      | none => if isPlain c then lines? quote escapes fuel (c :: acc) cs else none

/-- The characters after a line end in front, or all of them. -/
def dropNewline (cs : List Char) : List Char := (newline? cs).getD cs

/-- A text on one line. -/
def shortText? : List Char → Option (String × List Char)
  | '"' :: cs => line? '"' true (cs.length + 1) [] cs
  | '\'' :: cs => line? '\'' false (cs.length + 1) [] cs
  | _ => none

/-- A text in any spelling. -/
def text? : List Char → Option (String × List Char)
  | '"' :: '"' :: '"' :: cs => lines? '"' true (cs.length + 1) [] (dropNewline cs)
  | '\'' :: '\'' :: '\'' :: cs => lines? '\'' false (cs.length + 1) [] (dropNewline cs)
  | cs => shortText? cs

/-! ## Numbers -/

/-- Digits with single underscores between them, without the underscores. -/
def digitRun? (isDigit : Char → Bool) : List Char → Option (List Char × List Char)
  | [] => none
  | c :: cs =>
    if !isDigit c then none
    else match cs with
      | '_' :: rest => (digitRun? isDigit rest).map fun (ds, rest) => (c :: ds, rest)
      | d :: rest =>
        if isDigit d then (digitRun? isDigit (d :: rest)).map fun (ds, rest) => (c :: ds, rest)
        else some ([c], d :: rest)
      | [] => some ([c], [])

/-- A sign, if there is one. -/
def sign : List Char → List Char × List Char
  | '+' :: cs => (['+'], cs)
  | '-' :: cs => (['-'], cs)
  | cs => ([], cs)

/-- Digits in front of a point: no zero stands before another digit. -/
def whole? : List Char → Option (List Char × List Char)
  | '0' :: cs => some (['0'], cs)
  | cs => digitRun? Decimal.isDigit cs

/-- An exponent with its mark. -/
def exponent? : List Char → Option (List Char × List Char)
  | c :: cs =>
    if c = 'e' || c = 'E' then
      let (s, cs) := sign cs
      (digitRun? Decimal.isDigit cs).map fun (ds, cs) => ('e' :: s ++ ds, cs)
    else none
  | [] => none

/-- What makes a numeral a binary64 number: a fraction, an exponent or both. -/
def scale? : List Char → Option (List Char × List Char)
  | '.' :: cs => do
    let (ds, cs) ← digitRun? Decimal.isDigit cs
    match exponent? cs with
    | some (e, cs) => pure ('.' :: ds ++ e, cs)
    | none => pure ('.' :: ds, cs)
  | cs => exponent? cs

/-- A binary64 number. One too large for the format is refused, though not below zero. -/
def float? (cs : List Char) : Option (Float × List Char) := do
  let (s, cs) := sign cs
  match cs with
  | 'i' :: 'n' :: 'f' :: cs => pure (if s = ['-'] then -1.0 / 0.0 else 1.0 / 0.0, cs)
  | 'n' :: 'a' :: 'n' :: cs => pure (0.0 / 0.0, cs)
  | cs => do
    let (whole, cs) ← whole? cs
    let (scale, cs) ← scale? cs
    let x ← Decimal.float? (s ++ whole ++ scale)
    if x == 1.0 / 0.0 then none else pure (x, cs)

/-- An integer of 64 bits with a sign. -/
def inRange? (n : Int) (cs : List Char) : Option (Int × List Char) :=
  if -(Nat.pow 2 63) ≤ n ∧ n < Nat.pow 2 63 then some (n, cs) else none

/-- An integer in a base behind its mark. -/
def based? (base : Nat) (cs : List Char) : Option (Int × List Char) := do
  let (ds, cs) ← digitRun? (fun c => (Decimal.digitIn? base c).isSome) cs
  let n ← Decimal.natIn? base ds
  inRange? n cs

/-- An integer. -/
def integer? : List Char → Option (Int × List Char)
  | '0' :: 'x' :: cs => based? 16 cs
  | '0' :: 'o' :: cs => based? 8 cs
  | '0' :: 'b' :: cs => based? 2 cs
  | cs => do
    let (s, cs) := sign cs
    let (ds, cs) ← whole? cs
    let n : Int := Decimal.ofDigits ds
    inRange? (if s = ['-'] then -n else n) cs

/-! ## Dates and times -/

/-- A number of exactly so many digits within a range. -/
def fixed? (count low high : Nat) (cs : List Char) : Option (Nat × List Char) :=
  let ds := cs.take count
  let n := Decimal.ofDigits ds
  if ds.length = count ∧ ds.all Decimal.isDigit ∧ low ≤ n ∧ n ≤ high then some (n, cs.drop count)
  else none

/-- The number of days of a month. -/
def daysOf (year month : Nat) : Nat :=
  if month = 2 then
    if year % 4 = 0 ∧ (year % 100 ≠ 0 ∨ year % 400 = 0) then 29 else 28
  else if month = 4 ∨ month = 6 ∨ month = 9 ∨ month = 11 then 30
  else 31

/-- What follows a given character. -/
def behind (c : Char) : List Char → Option (List Char)
  | d :: cs => if d = c then some cs else none
  | [] => none

/-- What follows a date. -/
def date? (cs : List Char) : Option (List Char) := do
  let (year, cs) ← fixed? 4 0 9999 cs
  let cs ← behind '-' cs
  let (month, cs) ← fixed? 2 1 12 cs
  let cs ← behind '-' cs
  let (_, cs) ← fixed? 2 1 (daysOf year month) cs
  pure cs

/-- What follows a fraction of a second, if one is there. -/
def fraction? (cs : List Char) : Option (List Char) :=
  match cs with
  | '.' :: d :: rest =>
    if Decimal.isDigit d then some (rest.dropWhile Decimal.isDigit) else none
  | '.' :: [] => none
  | cs => some cs

/-- What follows a time. -/
def time? (cs : List Char) : Option (List Char) := do
  let (_, cs) ← fixed? 2 0 23 cs
  let cs ← behind ':' cs
  let (_, cs) ← fixed? 2 0 59 cs
  let cs ← behind ':' cs
  let (_, cs) ← fixed? 2 0 60 cs
  fraction? cs

/-- What follows the offset of a time, if one is there. -/
def offset? : List Char → Option (List Char)
  | 'Z' :: cs | 'z' :: cs => some cs
  | '+' :: cs | '-' :: cs => do
    let (_, cs) ← fixed? 2 0 23 cs
    let cs ← behind ':' cs
    let (_, cs) ← fixed? 2 0 59 cs
    pure cs
  | cs => some cs

/-- What follows a date, a time, or both. -/
def moment? (cs : List Char) : Option (List Char) :=
  match date? cs with
  | none => time? cs
  | some rest => match rest with
    | c :: after =>
      if c = 'T' || c = 't' || c = ' ' then
        match (time? after).bind offset? with
        | some rest => some rest
        | none => some rest
      else some rest
    | [] => some rest

/-! ## Scalars -/

/-- A date or a time as a value that fits no setting: an object with a reserved key. -/
def momentValue (text : List Char) : Json :=
  .obj [("datetime", .str (String.ofList text))]

/-- A numeral, a date or a time. -/
def numeral? (cs : List Char) : Option (Json × List Char) :=
  match moment? cs with
  | some rest => some (momentValue (cs.take (cs.length - rest.length)), rest)
  | none => match float? cs with
    | some (x, rest) => some (.num (.float x), rest)
    | none => (integer? cs).map fun (n, rest) => (.num (.int n), rest)

/-- A scalar. -/
def scalar? : List Char → Option (Json × List Char)
  | [] => none
  | c :: cs =>
    if c = '"' || c = '\'' then (text? (c :: cs)).map fun (s, rest) => (.str s, rest)
    else match c :: cs with
      | 't' :: 'r' :: 'u' :: 'e' :: rest => some (.bool true, rest)
      | 'f' :: 'a' :: 'l' :: 's' :: 'e' :: rest => some (.bool false, rest)
      | _ => numeral? (c :: cs)

end TaskGraph.Toml
