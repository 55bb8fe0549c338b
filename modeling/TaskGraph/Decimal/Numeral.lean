/-!
# Reading decimal numerals

A decimal numeral with an optional sign, point and exponent. At least one digit stands before or after
the point. The value is the binary64 number next to it, infinite when it is too large.
-/

set_option autoImplicit false

namespace TaskGraph.Decimal

/-- An ASCII digit. -/
def isDigit (c : Char) : Bool := '0' ≤ c && c ≤ '9'

/-- The natural number that decimal digits stand for. -/
def ofDigits (cs : List Char) : Nat := cs.foldl (fun n c => n * 10 + (c.toNat - 48)) 0

/-- The digits at the front of a text and what follows them. -/
def splitDigits (cs : List Char) : List Char × List Char :=
  (cs.takeWhile isDigit, cs.dropWhile isDigit)

/-- The digits after a point, if there is one. -/
def splitFraction : List Char → List Char × List Char
  | '.' :: cs => splitDigits cs
  | cs => ([], cs)

/-- The exponent after its mark; nothing when it has no digits. -/
def readExponent? : List Char → Option Int
  | '+' :: cs => digits cs
  | '-' :: cs => (digits cs).map (- ·)
  | cs => digits cs
where
  /-- A natural exponent. -/
  digits (cs : List Char) : Option Int :=
    if !cs.isEmpty && cs.all isDigit then some (ofDigits ((cs.dropWhile (· = '0')).take 8)) else none

/-- The number `digits * 10 ^ e`. -/
def toFloat (digits : Nat) (e : Int) : Float :=
  if 0 ≤ e then
    if e > 400 && digits != 0 then 1.0 / 0.0 else Float.ofScientific digits false e.toNat
  else if e < -100000 then 0.0
  else Float.ofScientific digits true e.natAbs

/-- The value of a numeral without a sign. -/
def magnitude? (cs : List Char) : Option Float :=
  let (whole, cs) := splitDigits cs
  let (fraction, cs) := splitFraction cs
  if whole.isEmpty && fraction.isEmpty then none
  else
    let digits := ofDigits (whole ++ fraction)
    let value (e : Int) : Float := toFloat digits (e - fraction.length)
    match cs with
    | [] => some (value 0)
    | c :: cs => if c = 'e' || c = 'E' then (readExponent? cs).map value else none

/-- The value of a numeral. -/
def float? : List Char → Option Float
  | '+' :: cs => magnitude? cs
  | '-' :: cs => (magnitude? cs).map (- ·)
  | cs => magnitude? cs

/-- The value of a digit in a base of at most sixteen. -/
def digitIn? (base : Nat) (c : Char) : Option Nat :=
  let n :=
    if '0' ≤ c ∧ c ≤ '9' then c.toNat - 48
    else if 'a' ≤ c ∧ c ≤ 'f' then c.toNat - 87
    else if 'A' ≤ c ∧ c ≤ 'F' then c.toNat - 55
    else 99
  if n < base then some n else none

/-- The natural number that digits in a base stand for; at least one digit is needed. -/
def natIn? (base : Nat) (cs : List Char) : Option Nat :=
  if cs.isEmpty then none
  else cs.foldl (fun n c => match n, digitIn? base c with
    | some n, some d => some (n * base + d)
    | _, _ => none) (some 0)

/-- The natural number that a text stands for, a plus sign being allowed. -/
def natural? : List Char → Option Nat
  | '+' :: cs => natIn? 10 cs
  | cs => natIn? 10 cs

end TaskGraph.Decimal
