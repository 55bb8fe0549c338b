import TaskGraph.Text.Pattern.Set

/-!
# Reading escapes and bracketed sets

A bracketed set holds characters, ranges, classes and further sets; `&&`, `--` and `~~` between its parts
are the intersection, the difference and the symmetric difference.
-/

set_option autoImplicit false

namespace TaskGraph.Pattern

/-- How a pattern is read. -/
structure Style where
  /-- Only the notation that every reader of patterns has in common. -/
  plain : Bool
  /-- Classes with a letter hold characters of plain texts only. -/
  narrow : Bool
  /-- Letters stand for all that differ from them in case only. -/
  anyCase : Bool
  /-- A point stands for every character. -/
  dotAll : Bool
  /-- Every line has a beginning and an end. -/
  lines : Bool
  /-- Repetitions are as rare as possible unless they say otherwise. -/
  rare : Bool
  /-- Blanks and remarks between the parts are passed over. -/
  spaced : Bool
  deriving Repr, DecidableEq

/-! ## Characters by number -/

/-- The value of a hexadecimal digit. -/
def hexDigit? (c : Char) : Option Nat :=
  if c.isDigit then some (c.toNat - 48)
  else if 'a' ≤ c ∧ c ≤ 'f' then some (c.toNat - 87)
  else if 'A' ≤ c ∧ c ≤ 'F' then some (c.toNat - 55)
  else none

/-- The value of some hexadecimal digits. -/
def hex? (cs : List Char) : Option Nat :=
  if cs.isEmpty then none
  else cs.foldl (fun n c => n.bind fun n => (hexDigit? c).map (16 * n + ·)) (some 0)

/-- The character of a number, if it is one. -/
def char? (n : Nat) : Option Char := if n.isValidChar then some (Char.ofNat n) else none

/-- A character given by hexadecimal digits, of a fixed number or inside braces. -/
def hexChar? (count : Nat) : List Char → Option (Char × List Char)
  | '\x7b' :: cs =>
    match cs.dropWhile (· != '\x7d') with
    | _ :: rest => ((hex? (cs.takeWhile (· != '\x7d'))).bind char?).map (·, rest)
    | [] => none
  | cs => if cs.length < count then none
    else ((hex? (cs.take count)).bind char?).map (·, cs.drop count)

/-! ## Escapes -/

/-- What an escape stands for: a character, or a set. -/
inductive Escape where
  | char (c : Char)
  | set (s : CharSet)
  deriving Repr, DecidableEq

/-- The name and, behind a sign of equality, the value of a property. -/
def propertyWords (cs : List Char) : Bool × String × Option String :=
  let part := fun (cs : List Char) => String.ofList cs
  match cs.span fun c => !(c = '=' || c = ':') with
  | (name, []) => (false, part name, none)
  | (name, _ :: value) =>
    if name.getLast? = some '!' then (true, part name.dropLast, some (part value))
    else (false, part name, some (part value))

/-- The set of a property behind its letter: one more letter, or a name in braces. -/
def propertySet? : List Char → Option (CharSet × List Char)
  | '\x7b' :: cs =>
    match cs.dropWhile (· != '\x7d') with
    | _ :: rest =>
      let (negated, name, value) := propertyWords (cs.takeWhile (· != '\x7d'))
      (CharSet.property? name value).map fun s => (CharSet.negatedIf negated s, rest)
    | [] => none
  | c :: cs => (CharSet.category? (CharSet.looseName (String.singleton c))).map (·, cs)
  | [] => none

/-- Whether a character behind a backslash stands for itself in every notation. -/
def isPunctuation (c : Char) : Bool := c.toNat < 128 && !c.isAlphanum && c != '<' && c != '>'

/-- What stands behind a backslash, inside and outside of brackets. -/
def escape? (style : Style) : List Char → Option (Escape × List Char)
  | 'n' :: cs => some (.char '\n', cs)
  | 'r' :: cs => some (.char '\r', cs)
  | 't' :: cs => some (.char '\t', cs)
  | 'f' :: cs => some (.char '\x0c', cs)
  | 'v' :: cs => some (.char '\x0b', cs)
  | 'x' :: cs => (hexChar? 2 cs).map fun (c, cs) => (.char c, cs)
  | 'u' :: cs => (hexChar? 4 cs).map fun (c, cs) => (.char c, cs)
  | 'U' :: cs => (hexChar? 8 cs).map fun (c, cs) => (.char c, cs)
  | 'p' :: cs => (propertySet? cs).map fun (s, cs) => (.set (.foldedIf style.anyCase s), cs)
  | 'P' :: cs =>
    (propertySet? cs).map fun (s, cs) => (.set (.outside (.foldedIf style.anyCase s)), cs)
  | c :: cs => match CharSet.letterClass? style.narrow c with
    | some s => some (.set s, cs)
    | none =>
      if style.plain then
        if isPunctuation c then some (.char c, cs)
        else match c, cs with
          | 'c', d :: cs => if d.isAlpha then some (.char (Char.ofNat (d.toNat % 32)), cs) else none
          | _, _ => none
      else match c with
        | 'a' => some (.char '\x07', cs)
        | 'e' => some (.char '\x1b', cs)
        | 'h' => (CharSet.wordClass? "xdigit").map fun s => (.set s, cs)
        | 'H' => (CharSet.wordClass? "xdigit").map fun s => (.set (.outside s), cs)
        | c => if c.isAlphanum then none else some (.char c, cs)
  | [] => none

/-! ## Bracketed sets -/

/-- What joins the parts of a set. -/
inductive SetOperation where
  | intersection
  | difference
  | symmetricDifference
  deriving Repr, DecidableEq

/-- The set that an operation makes of two. -/
def SetOperation.apply (o : SetOperation) (a b : CharSet) : CharSet :=
  match o with
  | intersection => .both a b
  | difference => .without a b
  | symmetricDifference => .exclusive a b

/-- Passes over blanks and remarks. -/
def skipRemarks : Nat → List Char → List Char
  | 0, cs => cs
  | fuel + 1, cs => match cs with
    | '#' :: rest => skipRemarks fuel (rest.dropWhile (· != '\n'))
    | c :: rest => if c = ' ' ∨ c = '\n' ∨ c = '\r' ∨ c = '\t' then skipRemarks fuel rest else cs
    | [] => []

/-- Passes over blanks and remarks where they do not count. -/
def skipSpace (style : Style) (cs : List Char) : List Char :=
  if style.spaced then skipRemarks (cs.length + 1) cs else cs

/-- A class with a word behind its opening bracket. -/
def wordClassAt? : List Char → Option (CharSet × List Char)
  | ':' :: cs =>
    let (negated, cs) := match cs with
      | '^' :: rest => (true, rest)
      | cs => (false, cs)
    match cs.span (· != ':') with
    | (word, ':' :: ']' :: rest) =>
      (CharSet.wordClass? (String.ofList word)).map fun s => (.negatedIf negated s, rest)
    | _ => none
  | _ => none

/-- A character or an escape inside brackets. -/
def setItem? (style : Style) : List Char → Option (Escape × List Char)
  | '\\' :: 'b' :: cs => if style.plain then none else some (.char '\x08', cs)
  | '\\' :: cs => escape? style cs
  | c :: cs => some (.char c, cs)
  | [] => none

/-- The set of an item. -/
def Escape.toSet : Escape → CharSet
  | .char c => .single c
  | .set s => s

/-- A character, an escape or a range inside brackets. -/
def setRange? (style : Style) (cs : List Char) : Option (CharSet × List Char) :=
  match setItem? style cs with
  | none => none
  | some (item, rest) => match skipSpace style rest with
    | '-' :: more => match skipSpace style more with
      | ']' :: _ | '-' :: _ => some (item.toSet, rest)
      | more => match item, setItem? style more with
        | .char low, some (.char high, after) =>
          if low ≤ high then some (.range low high, after) else none
        | _, _ => none
    | _ => some (item.toSet, rest)

/-- The set read so far: what was joined by operations, and the part after the last of them. -/
structure OpenSet where
  joined : Option (CharSet × SetOperation)
  part : CharSet
  deriving Repr, DecidableEq

/-- The set, its parts joined. -/
def OpenSet.close (style : Style) (s : OpenSet) : CharSet :=
  match s.joined with
  | some (a, o) => o.apply a (.foldedIf style.anyCase s.part)
  | none => .foldedIf style.anyCase s.part

/-- The set with one more item in its last part. -/
def OpenSet.add (s : OpenSet) (item : CharSet) : OpenSet := { s with part := .either s.part item }

/-- The signs at the beginning of a set that stand for themselves: hyphens, then a closing bracket unless
there are hyphens. -/
def leadingSigns (cs : List Char) : OpenSet × List Char :=
  match cs.takeWhile (· == '-'), cs.dropWhile (· == '-') with
  | [], ']' :: rest => (⟨none, .single ']'⟩, rest)
  | [], rest => (⟨none, .none⟩, rest)
  | _, rest => (⟨none, .single '-'⟩, rest)

mutual

/-- A set behind its opening bracket. -/
def set? (style : Style) : Nat → List Char → Option (CharSet × List Char)
  | 0, _ => none
  | fuel + 1, cs =>
    let cs := skipSpace style cs
    let (negated, cs) := match cs with
      | '^' :: rest => (true, skipSpace style rest)
      | cs => (false, cs)
    let (s, cs) := leadingSigns cs
    (setItems? style fuel s cs).map fun (s, cs) => (.negatedIf negated s, cs)

/-- The items of a set up to its closing bracket. -/
def setItems? (style : Style) : Nat → OpenSet → List Char → Option (CharSet × List Char)
  | 0, _, _ => none
  | fuel + 1, s, cs => match skipSpace style cs with
    | [] => none
    | ']' :: rest => some (.foldedIf style.anyCase (s.close style), rest)
    | '[' :: rest => match wordClassAt? rest with
      | some (c, rest) => setItems? style fuel (s.add c) rest
      | none => match set? style fuel rest with
        | some (c, rest) => setItems? style fuel (s.add c) rest
        | none => none
    | '&' :: '&' :: rest => setItems? style fuel ⟨some (s.close style, .intersection), .none⟩ rest
    | '-' :: '-' :: rest => setItems? style fuel ⟨some (s.close style, .difference), .none⟩ rest
    | '~' :: '~' :: rest =>
      setItems? style fuel ⟨some (s.close style, .symmetricDifference), .none⟩ rest
    | cs => match setRange? style cs with
      | some (item, rest) => setItems? style fuel (s.add item) rest
      | none => none

end

end TaskGraph.Pattern
