import TaskGraph.Http.Percent
import TaskGraph.Http.Punycode
import TaskGraph.Text.Casing
import TaskGraph.Decimal.Layout

/-!
# Sites

The site of an address is a domain, a number of 32 bits, eight numbers of 16 bits, or, for schemes that
are not special, a text of its own. A name whose last label is a number is a number or malformed.
-/

set_option autoImplicit false

namespace TaskGraph.Http

/-- Where an address leads. -/
inductive Site where
  | domain (name : String)
  | four (number : Nat)
  | six (pieces : List Nat)
  | verbatim (text : String)
  deriving Repr, DecidableEq

namespace Site

/-- A text cut at a character. -/
def cut (c : Char) (cs : List Char) : List (List Char) :=
  cs.foldr (fun d parts => match d == c, parts with
    | true, parts => [] :: parts
    | false, p :: ps => (d :: p) :: ps
    | false, [] => [[d]]) [[]]

/-! ## Four bytes -/

/-- A number in decimal, octal behind a zero, or hexadecimal behind its mark, which may stand alone. -/
def number? : List Char → Option Nat
  | [] => none
  | ['0'] => some 0
  | '0' :: c :: cs =>
    if c = 'x' || c = 'X' then (if cs.isEmpty then some 0 else Decimal.natIn? 16 cs)
    else Decimal.natIn? 8 (c :: cs)
  | cs => Decimal.natIn? 10 cs

/-- The labels of a domain without an empty last one. -/
def labels (cs : List Char) : List (List Char) :=
  match (cut '.' cs).reverse with
  | [] :: l :: ls => (l :: ls).reverse
  | ls => ls.reverse

/-- Whether the last label is a number. -/
def endsInNumber (cs : List Char) : Bool :=
  match (labels cs).getLast? with
  | none => false
  | some l => (!l.isEmpty && l.all Char.isDigit) || (number? l).isSome

/-- The number that up to four parts stand for; the last one fills the bytes that are left. -/
def four? (cs : List Char) : Option Nat := do
  let ns ← (labels cs).mapM number?
  match ns.reverse with
  | [] => none
  | last :: before =>
    if ns.length > 4 || before.any (· > 255) || last ≥ Nat.pow 256 (5 - ns.length) then none
    else
      let front := before.reverse.foldl (fun n b => 256 * n + b) 0
      pure (front * Nat.pow 256 (5 - ns.length) + last)

/-- The text of four bytes. -/
def fourText (n : Nat) : String :=
  ".".intercalate ([n / 16777216, n / 65536 % 256, n / 256 % 256, n % 256].map Decimal.natText)

/-! ## Eight pieces -/

/-- A byte in decimal without zeros in front. -/
def plainByte? (cs : List Char) : Option Nat :=
  match cs with
  | '0' :: _ :: _ => none
  | cs => (Decimal.natIn? 10 cs).bind fun n => if n < 256 then some n else none

/-- A piece of up to four hexadecimal digits. -/
def piece? (cs : List Char) : Option Nat :=
  if cs.length > 4 then none else Decimal.natIn? 16 cs

/-- Pieces with colons between them; four bytes with points may stand for the last two. -/
def pieces? (last : Bool) (cs : List Char) : Option (List Nat) :=
  if cs.isEmpty then some []
  else
    let groups := cut ':' cs
    match last, groups.reverse with
    | true, g :: before =>
      if g.contains '.' then do
        let front ← before.reverse.mapM piece?
        match ← (cut '.' g).mapM plainByte? with
        | [a, b, c, d] => pure (front ++ [256 * a + b, 256 * c + d])
        | _ => none
      else groups.mapM piece?
    | _, _ => groups.mapM piece?

/-- What stands in front of two colons in a row and what behind them. -/
def atGap : List Char → List Char → Option (List Char × List Char)
  | _, [] => none
  | seen, ':' :: ':' :: cs => some (seen.reverse, cs)
  | seen, c :: cs => atGap (c :: seen) cs

/-- The pieces of an address; two colons in a row stand for zeros. -/
def six? (cs : List Char) : Option (List Nat) :=
  match atGap [] cs with
  | none => (pieces? true cs).bind fun ps => if ps.length = 8 then some ps else none
  | some (front, back) => do
    let fs ← pieces? false front
    let bs ← pieces? true back
    if fs.length + bs.length > 7 then none
    else pure (fs ++ List.replicate (8 - fs.length - bs.length) 0 ++ bs)

/-- The length of the zeros in front. -/
def zerosInFront (ps : List Nat) : Nat := (ps.takeWhile (· = 0)).length

/-- The first of the longest runs of zeros, as its place and its length. -/
def longestRun (ps : List Nat) : Nat × Nat :=
  (List.range ps.length).foldl (fun best i =>
    let n := zerosInFront (ps.drop i)
    if n > best.2 then (i, n) else best) (0, 0)

/-- A piece in hexadecimal digits. -/
def pieceText (n : Nat) : String := String.ofList (Nat.toDigits 16 n)

/-- The text of eight pieces; the longest run of at least two zeros is left out. -/
def sixText (ps : List Nat) : String :=
  let (place, count) := longestRun ps
  let shown (ps : List Nat) : String := ":".intercalate (ps.map pieceText)
  if count < 2 then shown ps
  else shown (ps.take place) ++ "::" ++ shown (ps.drop (place + count))

/-! ## Domains -/

/-- What a character of a domain is taken for. -/
def mapped (c : Char) : List Char :=
  let n := c.toNat
  if n = 0x3002 || n = 0xFF0E || n = 0xFF61 then ['.']
  else if 0xFF01 ≤ n && n ≤ 0xFF5E then Text.lowerChar (Char.ofNat (n - 0xFEE0))
  else if n = 0xAD || n = 0x200B || n = 0x2060 || n = 0xFEFF || (0xFE00 ≤ n && n ≤ 0xFE0F) then []
  else Text.lowerChar c

/-- A label in ASCII. -/
def asciiLabel (cs : List Char) : List Char :=
  if cs.all fun c => c.toNat < 128 then cs else "xn--".toList ++ Punycode.encode cs

/-- A domain in ASCII. -/
def asciiDomain (cs : List Char) : List Char :=
  (".".toList).intercalate ((cut '.' (cs.flatMap mapped)).map asciiLabel)

/-- A character that no site holds. -/
def isForbidden (c : Char) : Bool :=
  c.toNat = 0 || c.toNat = 9 || c.toNat = 10 || c.toNat = 13 || " #/:<>?@[\\]^|".toList.contains c

/-- A character that no domain holds. -/
def isForbiddenInDomain (c : Char) : Bool := isForbidden c || c.toNat < 32 || c = '%' || c.toNat = 127

/-- Reads a site. -/
def parse? (special : Bool) (cs : List Char) : Option Site :=
  match cs with
  | '[' :: rest => match rest.reverse with
    | ']' :: inner => (six? inner.reverse).map six
    | _ => none
  | cs =>
    if !special then
      if cs.any isForbidden then none
      else some (verbatim (percentEncode .control cs))
    else
      let domain := asciiDomain (Text.ofBytes (percentDecode cs)).toList
      if domain.isEmpty || domain.any isForbiddenInDomain then none
      else if endsInNumber domain then (four? domain).map four
      else some (.domain (String.ofList domain))

/-- The text of a site. -/
def render : Site → String
  | domain name => name
  | four n => fourText n
  | six ps => "[" ++ sixText ps ++ "]"
  | verbatim t => t

end Site

end TaskGraph.Http
